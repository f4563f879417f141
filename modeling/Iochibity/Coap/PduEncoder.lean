/-
The URI that is put together from Uri-Path and Uri-Query options.
-/
import Iochibity.Coap.PduOptions
import Iochibity.Lib.Segments
import Iochibity.Lib.CoapWire
import Iochibity.Lib.StableOrder

namespace Iochibity.Coap.PduOptions

open Segments
open List

def slash : UInt8 := 47
def questionMark : UInt8 := 63
def semicolon : UInt8 := 59

section

variable (opts : List CoapOption)

def pathSegments : List (List UInt8) :=
  (opts.filter (·.type == optUriPath)).map CoapOption.value

def querySegments : List (List UInt8) :=
  (opts.filter (·.type == optUriQuery)).map CoapOption.value

/-- `'?' q1 ';' … ';' qn`, and nothing without queries. -/
def queryText : List (List UInt8) → List UInt8
  | [] => []
  | q :: qs => questionMark :: (q ++ prefixed semicolon qs)

/-- `'/' p1 '/' … '/' pm` and the queries. -/
def wantedUri : List UInt8 :=
  prefixed slash (pathSegments opts) ++ queryText (querySegments opts)

def UriFaithful (lib : LibCoap) (gChproxyUri : List UInt8) (tcp : Bool) (pdu : Pdu) : Prop :=
  ∃ code info, caGetInfoFromPDU lib gChproxyUri tcp pdu = .ok code info
    ∧ info.resourceUri.getD [] = wantedUri pdu.options

def SeparatorFree : Prop :=
  ∀ seg ∈ pathSegments opts ++ querySegments opts, ∀ b ∈ seg,
    b ≠ slash ∧ b ≠ questionMark ∧ b ≠ semicolon

def LibCoap.UriOptionsAreStrings (lib : LibCoap) : Prop :=
  lib.isVarBytes optUriPath = false ∧ lib.isVarBytes optUriQuery = false

def uriOptions : List CoapOption :=
  opts.filter (isUriOption ·.type)

end

variable {opts : List CoapOption}

lemma uriOptions_of_late (h : ∀ opt ∈ opts, optUriPath < opt.type) :
    opts.filter (·.type == optUriPath) = [] := by
  rw [filter_eq_nil_iff]
  intro opt hopt
  have := h opt hopt
  simp only [beq_iff_eq]
  omega

lemma uriOptions_eq (hordered : opts.Pairwise (fun a b => a.type ≤ b.type)) :
    uriOptions opts = opts.filter (·.type == optUriPath)
      ++ opts.filter (·.type == optUriQuery) := by
  induction opts with
  | nil => rfl
  | cons opt opts ih =>
    rw [pairwise_cons] at hordered
    have hrest := ih hordered.2
    simp only [uriOptions] at hrest ⊢
    have huri : isUriOption opt.type = (opt.type == optUriPath || opt.type == optUriQuery) := rfl
    by_cases hpath : (opt.type == optUriPath) = true
    · have hquery : (opt.type == optUriQuery) = false := by
        rw [beq_iff_eq] at hpath
        rw [hpath]
        rfl
      simp [huri, hpath, hquery, hrest]
    by_cases hquery : (opt.type == optUriQuery) = true
    · -- after a query there are no more path options
      have hlate := @uriOptions_of_late opts (fun o ho => by
        have hle := hordered.1 o ho
        rw [beq_iff_eq] at hquery
        rw [hquery] at hle
        exact Nat.lt_of_lt_of_le (by decide) hle)
      simp [huri, hpath, hquery, hrest, hlate]
    · simp [huri, hpath, hquery, hrest]

/-! ## Lengths -/

variable (segs : List (List UInt8))

def segmentsLength : Nat :=
  (segs.map (·.length + 1)).sum

lemma length_prefixed (sep : UInt8) (segs : List (List UInt8)) :
    (prefixed sep segs).length = segmentsLength segs := by
  induction segs with
  | nil => rfl
  | cons seg segs ih =>
    rw [prefixed_cons, length_cons, length_append, ih, segmentsLength, segmentsLength,
      map_cons, sum_cons]
    omega

lemma length_queryText : (queryText segs).length = segmentsLength segs := by
  cases segs with
  | nil => rfl
  | cons seg segs =>
    rw [queryText, length_cons, length_append, length_prefixed, segmentsLength,
      segmentsLength, map_cons, sum_cons]
    omega

lemma length_lt_segmentsLength {seg : List UInt8} {segs : List (List UInt8)} (h : seg ∈ segs) :
    seg.length < segmentsLength segs := by
  induction segs with
  | nil => simp at h
  | cons seg' segs ih =>
    rw [segmentsLength, map_cons, sum_cons]
    rcases mem_cons.mp h with rfl | h
    · omega
    have := ih h
    rw [segmentsLength] at this
    omega

lemma segmentsLength_append (segs segs' : List (List UInt8)) :
    segmentsLength (segs ++ segs') = segmentsLength segs + segmentsLength segs' := by
  rw [segmentsLength, segmentsLength, segmentsLength, map_append, sum_append]

lemma segmentsLength_filter :
    segmentsLength (segs.filter (!·.isEmpty)) ≤ segmentsLength segs
      ∧ (segmentsLength (segs.filter (!·.isEmpty)) = segmentsLength segs ↔
        ∀ seg ∈ segs, seg ≠ []) := by
  induction segs with
  | nil => simp
  | cons seg segs ih =>
    have hcons (s : List UInt8) (ss : List (List UInt8)) :
        segmentsLength (s :: ss) = s.length + 1 + segmentsLength ss := by
      rw [segmentsLength, map_cons, sum_cons, segmentsLength]
    cases seg with
    | nil =>
      rw [filter_cons_of_neg (by simp), hcons]
      refine ⟨by omega, ?_⟩
      constructor
      · intro h
        omega
      · intro h
        exact absurd rfl (h [] mem_cons_self)
    | cons b bs =>
      rw [filter_cons_of_pos (by simp), hcons, hcons]
      refine ⟨by omega, ?_⟩
      rw [forall_mem_cons, Nat.add_left_cancel_iff, ih.2]
      exact ⟨fun h => ⟨cons_ne_nil b bs, h⟩, fun h => h.2⟩

lemma length_wantedUri (hordered : opts.Pairwise (fun a b => a.type ≤ b.type)) :
    (wantedUri opts).length = segmentsLength ((uriOptions opts).map CoapOption.value) := by
  rw [wantedUri, length_append, length_prefixed, length_queryText, uriOptions_eq hordered,
    map_append, segmentsLength_append, pathSegments, querySegments]

/-! ## What the loop assembles -/

variable {lib : LibCoap}

lemma optionBytes_uri {opt : CoapOption} (hlib : lib.UriOptionsAreStrings)
    (huri : isUriOption opt.type = true) (hlen : opt.value.length < coapMaxPduSize) :
    optionBytes lib opt = opt.value := by
  have hstring : lib.isVarBytes opt.type = false := by
    simp only [isUriOption, Bool.or_eq_true, beq_iff_eq] at huri
    rcases huri with h | h
    · rw [h, hlib.1]
    · rw [h, hlib.2]
  rw [optionBytes, caGetOptionData, if_neg (by decide), if_neg (Nat.not_le.mpr hlen), hstring]
  simp

lemma value_lt_of_fits {opt : CoapOption} (hordered : opts.Pairwise (fun a b => a.type ≤ b.type))
    (hfit : (wantedUri opts).length < caMaxUriLength) (hopt : opt ∈ uriOptions opts) :
    opt.value.length < coapMaxPduSize := by
  rw [length_wantedUri hordered] at hfit
  have hlt := length_lt_segmentsLength (mem_map_of_mem (f := CoapOption.value) hopt)
  have : caMaxUriLength < coapMaxPduSize := by decide
  omega

lemma uriSegments_eq (hlib : lib.UriOptionsAreStrings)
    (hordered : opts.Pairwise (fun a b => a.type ≤ b.type))
    (hfit : (wantedUri opts).length < caMaxUriLength) :
    uriSegments lib opts = (uriOptions opts).filter (!·.value.isEmpty) := by
  have hbytes : ∀ opt ∈ uriOptions opts, optionBytes lib opt = opt.value := fun opt hopt =>
    optionBytes_uri hlib (mem_filter.mp hopt).2 (value_lt_of_fits hordered hfit hopt)
  have hsplit : opts.filter (fun opt => isUriOption opt.type && !(optionBytes lib opt).isEmpty)
      = (uriOptions opts).filter (fun opt => !(optionBytes lib opt).isEmpty) := by
    rw [uriOptions, filter_filter]
    congr 1
    funext opt
    rw [Bool.and_comm]
  have hsame : (uriOptions opts).filter (fun opt => !(optionBytes lib opt).isEmpty)
      = (uriOptions opts).filter (!·.value.isEmpty) := by
    apply filter_congr
    intro opt hopt
    rw [hbytes opt hopt]
  have hid : ((uriOptions opts).filter (!·.value.isEmpty)).map
      (fun opt => (⟨opt.type, optionBytes lib opt⟩ : CoapOption))
      = ((uriOptions opts).filter (!·.value.isEmpty)).map id := by
    apply map_congr_left
    intro opt hopt
    rw [hbytes opt (mem_filter.mp hopt).1]
    rfl
  rw [uriSegments, hsplit, hsame, hid, map_id]

lemma uriLength_eq (segs : List CoapOption) :
    uriLength segs = segmentsLength (segs.map CoapOption.value) := by
  rw [uriLength, segmentsLength, map_map]
  rfl

lemma uriText_paths {paths : List CoapOption} (first query : Bool) (rest : List CoapOption)
    (h : ∀ seg ∈ paths, seg.type = optUriPath) :
    uriText first query (paths ++ rest) = prefixed slash (paths.map CoapOption.value)
        ++ uriText (first || !paths.isEmpty) query rest := by
  induction paths generalizing first with
  | nil =>
    rw [nil_append, map_nil, isEmpty_nil, Bool.not_true, Bool.or_false]
    rfl
  | cons seg paths ih =>
    rw [forall_mem_cons] at h
    have hsep : separator first query seg.type = slash := by
      rw [h.1]
      cases first <;> rfl
    have hquery : queryAfter first query seg.type = query := by
      rw [h.1]
      cases first <;> rfl
    rw [cons_append, uriText, hsep, hquery, ih true h.2, map_cons, prefixed_cons, Bool.true_or,
      isEmpty_cons, Bool.not_false, Bool.or_true, cons_append, append_assoc]

lemma queryType_ne {seg : CoapOption} (h : seg.type = optUriQuery) : seg.type ≠ optUriPath := by
  rw [h]
  decide

section

variable {queries : List CoapOption} (h : ∀ seg ∈ queries, seg.type = optUriQuery)
include h

lemma uriText_moreQueries :
    uriText true true queries = prefixed semicolon (queries.map CoapOption.value) := by
  induction queries with
  | nil => rfl
  | cons seg queries ih =>
    rw [forall_mem_cons] at h
    have hne := queryType_ne h.1
    rw [uriText, map_cons, prefixed_cons, ← ih h.2]
    simp [separator, queryAfter, hne, semicolon]

lemma uriText_queries :
    uriText true false queries = queryText (queries.map CoapOption.value) := by
  cases queries with
  | nil => rfl
  | cons seg queries =>
    rw [forall_mem_cons] at h
    have hne := queryType_ne h.1
    rw [uriText, map_cons, queryText, ← uriText_moreQueries h.2]
    simp [separator, queryAfter, hne, questionMark]

end

lemma type_of_mem_filter {type : Nat} :
    ∀ seg ∈ opts.filter (·.type == type), seg.type = type := by
  intro seg hseg
  exact beq_iff_eq.mp (mem_filter.mp hseg).2

lemma uriText_eq_wantedUri (hordered : opts.Pairwise (fun a b => a.type ≤ b.type))
    (hpath : pathSegments opts ≠ []) :
    uriText false false (uriOptions opts) = wantedUri opts := by
  have hne : (opts.filter (·.type == optUriPath)).isEmpty = false := by
    rw [isEmpty_eq_false_iff]
    intro h
    exact hpath (by rw [pathSegments, h, map_nil])
  rw [uriOptions_eq hordered, uriText_paths false false _ type_of_mem_filter, hne, Bool.not_false,
    Bool.or_true, uriText_queries type_of_mem_filter, wantedUri, pathSegments, querySegments]

lemma head_uriText {segs : List CoapOption} (h : segs ≠ []) :
    (uriText false false segs).head? = some slash := by
  cases segs with
  | nil => exact absurd rfl h
  | cons seg segs => rfl

/-! ## When the URI is the wanted one -/

section

variable (lib : LibCoap) (gChproxyUri : List UInt8) (opts : List CoapOption)

def presetUri : List UInt8 :=
  if hasProxyUri lib opts then cstr gChproxyUri else []

/-- At most 255 user options, and: there is a path, and every segment has bytes and no NUL. Or no
segment has a byte: then nothing is taken from the options, and there is no segment at all, or the
preset URI of a proxy request is the wanted one. -/
def UriCondition : Prop :=
  (userOptions opts).length ≤ uint8Max
    ∧ ((pathSegments opts ≠ []
        ∧ ∀ seg ∈ pathSegments opts ++ querySegments opts, seg ≠ [] ∧ 0 ∉ seg)
      ∨ ((∀ seg ∈ pathSegments opts ++ querySegments opts, seg = [])
        ∧ presetUri lib gChproxyUri opts = wantedUri opts))

end

lemma map_value_uriOptions (hordered : opts.Pairwise (fun a b => a.type ≤ b.type)) :
    (uriOptions opts).map CoapOption.value = pathSegments opts ++ querySegments opts := by
  rw [uriOptions_eq hordered, map_append, pathSegments, querySegments]

lemma mem_prefixed {sep b : UInt8} {segs : List (List UInt8)} :
    b ∈ prefixed sep segs ↔ ∃ seg ∈ segs, b = sep ∨ b ∈ seg := by
  simp [prefixed]

lemma nul_mem_wantedUri (opts : List CoapOption) :
    0 ∈ wantedUri opts ↔ ∃ seg ∈ pathSegments opts ++ querySegments opts, 0 ∈ seg := by
  have hquery (segs : List (List UInt8)) :
      0 ∈ queryText segs ↔ ∃ seg ∈ segs, (0 : UInt8) ∈ seg := by
    cases segs with
    | nil => simp [queryText]
    | cons seg segs => simp [queryText, mem_prefixed, questionMark, semicolon]
  rw [wantedUri, mem_append, mem_prefixed, hquery]
  simp [slash, or_and_right, exists_or]

lemma cstr_eq_self_iff (text : List UInt8) : cstr text = text ↔ 0 ∉ text := by
  rw [cstr, takeWhile_eq_self_iff]
  constructor
  · intro h hmem
    exact absurd (h 0 hmem) (by decide)
  · intro h b hb
    simp only [ne_eq, decide_not, Bool.not_eq_eq_eq_not, Bool.not_true, decide_eq_false_iff_not]
    rintro rfl
    exact h hb

lemma length_cstr_le (text : List UInt8) : (cstr text).length ≤ text.length :=
  List.Sublist.length_le (takeWhile_sublist _)

section Faithful

variable {lib : LibCoap} {gChproxyUri : List UInt8} {opts : List CoapOption}

lemma uriOf_getD :
    (uriOf lib gChproxyUri opts).getD []
      = if uriSegments lib opts ≠ [] then cstr (uriText false false (uriSegments lib opts))
        else presetUri lib gChproxyUri opts := by
  rw [uriOf, presetUri]
  split
  · rfl
  cases hasProxyUri lib opts with
  | false => rfl
  | true =>
    cases h : cstr gChproxyUri with
    | nil | cons => rfl

variable (hlib : lib.UriOptionsAreStrings) (hordered : opts.Pairwise (fun a b => a.type ≤ b.type))
  (hfit : (wantedUri opts).length < caMaxUriLength)

include hlib hordered hfit

lemma uriLength_uriSegments :
    uriLength (uriSegments lib opts) ≤ (wantedUri opts).length
      ∧ (uriLength (uriSegments lib opts) = (wantedUri opts).length
        ↔ ∀ seg ∈ pathSegments opts ++ querySegments opts, seg ≠ []) := by
  have hmap : ((uriOptions opts).filter (!·.value.isEmpty)).map CoapOption.value
      = ((uriOptions opts).map CoapOption.value).filter (!·.isEmpty) := by
    rw [filter_map]
    rfl
  rw [uriSegments_eq hlib hordered hfit, uriLength_eq, hmap, length_wantedUri hordered,
    ← map_value_uriOptions hordered]
  exact segmentsLength_filter _

lemma uriSegments_eq_nil_iff :
    uriSegments lib opts = [] ↔ ∀ seg ∈ pathSegments opts ++ querySegments opts, seg = [] := by
  rw [uriSegments_eq hlib hordered hfit, filter_eq_nil_iff, ← map_value_uriOptions hordered,
    forall_mem_map]
  simp

lemma uriSegments_of_nonempty (h : ∀ seg ∈ pathSegments opts ++ querySegments opts, seg ≠ []) :
    uriSegments lib opts = uriOptions opts := by
  rw [uriSegments_eq hlib hordered hfit, filter_eq_self]
  rw [← map_value_uriOptions hordered, forall_mem_map] at h
  intro opt hopt
  simpa using h opt hopt

lemma uriOf_eq_wantedUri_iff :
    (uriOf lib gChproxyUri opts).getD [] = wantedUri opts
      ↔ (pathSegments opts ≠ []
          ∧ ∀ seg ∈ pathSegments opts ++ querySegments opts, seg ≠ [] ∧ 0 ∉ seg)
        ∨ ((∀ seg ∈ pathSegments opts ++ querySegments opts, seg = [])
          ∧ presetUri lib gChproxyUri opts = wantedUri opts) := by
  obtain ⟨hle, heq⟩ := uriLength_uriSegments hlib hordered hfit
  have hnil := uriSegments_eq_nil_iff hlib hordered hfit
  rw [uriOf_getD]
  by_cases hsegs : uriSegments lib opts = []
  · rw [if_neg (not_not.mpr hsegs)]
    have hempty := hnil.mp hsegs
    constructor
    · intro h
      exact .inr ⟨hempty, h⟩
    · rintro (⟨hpath, hall⟩ | ⟨-, h⟩)
      · obtain ⟨seg, hseg⟩ := exists_mem_of_ne_nil _ hpath
        have hmem := mem_append_left (querySegments opts) hseg
        exact absurd (hempty seg hmem) (hall seg hmem).1
      · exact h
  rw [if_pos hsegs]
  have hlen := length_uriText false false (uriSegments lib opts)
  constructor
  · intro h
    -- nothing may be lost: neither a segment that is passed over nor bytes after a NUL
    have hshort := length_cstr_le (uriText false false (uriSegments lib opts))
    have hfull := congrArg List.length h
    have hnonempty := heq.mp (by omega)
    have htext : cstr (uriText false false (uriSegments lib opts))
        = uriText false false (uriSegments lib opts) :=
      (List.takeWhile_prefix _).eq_of_length (by rw [← cstr]; omega)
    rw [htext] at h
    have hnul := (cstr_eq_self_iff _).mp htext
    rw [h, nul_mem_wantedUri] at hnul
    left
    constructor
    · intro hpath
      have hhead := head_uriText hsegs
      rw [h, wantedUri, hpath] at hhead
      cases hquery : querySegments opts with
      | nil =>
        rw [hquery] at hhead
        exact absurd hhead (by simp [prefixed, queryText])
      | cons q qs =>
        rw [hquery] at hhead
        exact absurd hhead (by simp [prefixed, queryText, questionMark, slash])
    · intro seg hseg
      exact ⟨hnonempty seg hseg, fun hmem => hnul ⟨seg, hseg, hmem⟩⟩
  · rintro (⟨hpath, hall⟩ | ⟨hempty, -⟩)
    · have hnonempty : ∀ seg ∈ pathSegments opts ++ querySegments opts, seg ≠ [] :=
        fun seg hseg => (hall seg hseg).1
      rw [uriSegments_of_nonempty hlib hordered hfit hnonempty,
        uriText_eq_wantedUri hordered hpath, cstr_eq_self_iff, nul_mem_wantedUri]
      rintro ⟨seg, hseg, hmem⟩
      exact (hall seg hseg).2 hmem
    · exact absurd (hnil.mpr hempty) hsegs

end Faithful

lemma queryText_inj {qs₁ qs₂ : List (List UInt8)}
    (h₁ : ∀ seg ∈ qs₁, ∀ b ∈ seg, b ≠ semicolon) (h₂ : ∀ seg ∈ qs₂, ∀ b ∈ seg, b ≠ semicolon)
    (h : queryText qs₁ = queryText qs₂) : qs₁ = qs₂ := by
  have hnone : StopsAt (· ≠ semicolon) ([] : List UInt8) := by
    intro b hb
    simp at hb
  have hsep : ¬semicolon ≠ semicolon := by simp
  cases qs₁ with
  | nil =>
    cases qs₂ with
    | nil => rfl
    | cons q qs => exact absurd h (by simp [queryText])
  | cons q₁ qs₁ =>
    cases qs₂ with
    | nil => exact absurd h (by simp [queryText])
    | cons q₂ qs₂ =>
      rw [forall_mem_cons] at h₁ h₂
      rw [queryText, queryText, List.cons.injEq, ← append_nil (prefixed semicolon qs₁),
        ← append_nil (prefixed semicolon qs₂)] at h
      obtain ⟨hq, hrest⟩ := append_stops_inj h₁.1 h₂.1 (stopsAt_prefixed hsep hnone)
        (stopsAt_prefixed hsep hnone) h.2
      obtain ⟨hqs, -⟩ := @prefixed_append_inj _ (· ≠ semicolon) semicolon qs₁ qs₂ [] []
        hsep h₁.2 h₂.2 hnone hnone (by simp) (by simp) hrest
      rw [hq, hqs]

lemma wantedUri_inj {opts₁ opts₂ : List CoapOption} (h₁ : SeparatorFree opts₁)
    (h₂ : SeparatorFree opts₂) (h : wantedUri opts₁ = wantedUri opts₂) :
    pathSegments opts₁ = pathSegments opts₂ ∧ querySegments opts₁ = querySegments opts₂ := by
  have hstop (qs : List (List UInt8)) :
      StopsAt (fun b => b ≠ slash ∧ b ≠ questionMark) (queryText qs) := by
    cases qs with
    | nil =>
      intro b hb
      exact absurd hb (by simp [queryText])
    | cons q qs =>
      intro b hb
      rw [queryText, head?_cons, Option.mem_def, Option.some.injEq] at hb
      rw [← hb]
      simp
  have hhead (qs : List (List UInt8)) : slash ∉ (queryText qs).head? := by
    cases qs with
    | nil => simp [queryText]
    | cons q qs => simp [queryText, slash, questionMark]
  obtain ⟨hpath, hquery⟩ := prefixed_append_inj (by simp)
    (fun seg hseg b hb => ⟨(h₁ seg (mem_append_left _ hseg) b hb).1,
      (h₁ seg (mem_append_left _ hseg) b hb).2.1⟩)
    (fun seg hseg b hb => ⟨(h₂ seg (mem_append_left _ hseg) b hb).1,
      (h₂ seg (mem_append_left _ hseg) b hb).2.1⟩)
    (hstop _) (hstop _) (hhead _) (hhead _) h
  exact ⟨hpath, queryText_inj (fun seg hseg b hb => (h₁ seg (mem_append_right _ hseg) b hb).2.2)
    (fun seg hseg b hb => (h₂ seg (mem_append_right _ hseg) b hb).2.2) hquery⟩

/-! ## The results -/

lemma caGetInfoFromPDU_inBounds (lib : LibCoap) (gChproxyUri : List UInt8) (tcp : Bool)
    (pdu : Pdu) : caGetInfoFromPDU lib gChproxyUri tcp pdu ≠ .outOfBounds := by
  by_cases hrefused : uint8Max < (userOptions pdu.options).length
      ∨ caMaxUriLength ≤ uriLength (uriSegments lib pdu.options)
  · rw [caGetInfoFromPDU_failed hrefused]
    simp
  rw [not_or, Nat.not_lt, Nat.not_le] at hrefused
  obtain ⟨info, hok, -⟩ := caGetInfoFromPDU_ok gChproxyUri tcp hrefused.1 hrefused.2
  rw [hok]
  simp

lemma uriFaithful_iff (gChproxyUri : List UInt8) (tcp : Bool) {pdu : Pdu}
    (hlib : lib.UriOptionsAreStrings) (hfit : (wantedUri pdu.options).length < caMaxUriLength) :
    UriFaithful lib gChproxyUri tcp pdu ↔ UriCondition lib gChproxyUri pdu.options := by
  have hle := (uriLength_uriSegments hlib pdu.ordered hfit).1
  rw [UriCondition, ← uriOf_eq_wantedUri_iff hlib pdu.ordered hfit]
  by_cases hcount : (userOptions pdu.options).length ≤ uint8Max
  · obtain ⟨info, hok, -, -, huri, -⟩ := caGetInfoFromPDU_ok gChproxyUri tcp hcount
      (Nat.lt_of_le_of_lt hle hfit)
    constructor
    · rintro ⟨code, info', hok', h⟩
      rw [hok, PduResult.ok.injEq] at hok'
      obtain ⟨-, rfl⟩ := hok'
      rw [huri] at h
      exact ⟨hcount, h⟩
    · rintro ⟨-, h⟩
      exact ⟨_, info, hok, by rw [huri, h]⟩
  have hfailed : caGetInfoFromPDU lib gChproxyUri tcp pdu = .failed :=
    caGetInfoFromPDU_failed (.inl (Nat.not_le.mp hcount))
  constructor
  · rintro ⟨code, info, hok, -⟩
    rw [hfailed] at hok
    exact PduResult.noConfusion hok
  · intro h
    exact absurd h.1 hcount

def UriUnambiguous (lib : LibCoap) (gChproxyUri : List UInt8) (tcp : Bool) (pdu₁ pdu₂ : Pdu) :
    Prop :=
  SeparatorFree pdu₁.options → SeparatorFree pdu₂.options →
    ¬(pathSegments pdu₁.options = pathSegments pdu₂.options
      ∧ querySegments pdu₁.options = querySegments pdu₂.options) →
    ∀ code₁ info₁ code₂ info₂, caGetInfoFromPDU lib gChproxyUri tcp pdu₁ = .ok code₁ info₁ →
      caGetInfoFromPDU lib gChproxyUri tcp pdu₂ = .ok code₂ info₂ →
      info₁.resourceUri ≠ info₂.resourceUri

lemma uriUnambiguous_of_faithful {gChproxyUri : List UInt8} {tcp : Bool} {pdu₁ pdu₂ : Pdu}
    (h₁ : UriFaithful lib gChproxyUri tcp pdu₁) (h₂ : UriFaithful lib gChproxyUri tcp pdu₂) :
    UriUnambiguous lib gChproxyUri tcp pdu₁ pdu₂ := by
  intro hfree₁ hfree₂ hne code₁ info₁ code₂ info₂ hok₁ hok₂ heq
  obtain ⟨_, info₁', hok₁', huri₁⟩ := h₁
  obtain ⟨_, info₂', hok₂', huri₂⟩ := h₂
  rw [hok₁, PduResult.ok.injEq] at hok₁'
  rw [hok₂, PduResult.ok.injEq] at hok₂'
  obtain ⟨-, rfl⟩ := hok₁'
  obtain ⟨-, rfl⟩ := hok₂'
  apply hne
  apply wantedUri_inj hfree₁ hfree₂
  rw [← huri₁, ← huri₂, heq]

/-- **URI reassembly.** All stores stay in the URI buffer for any PDU. For PDUs
whose wanted URIs fit it, the URIs handed over are the wanted ones, and different
ones for different options, if and only if the options of both meet
`UriCondition`. -/
theorem uriReassembly_iff {lib : LibCoap} (hlib : lib.UriOptionsAreStrings)
    (gChproxyUri : List UInt8) (tcp : Bool) (pdu₁ pdu₂ : Pdu)
    (hfit₁ : (wantedUri pdu₁.options).length < caMaxUriLength)
    (hfit₂ : (wantedUri pdu₂.options).length < caMaxUriLength) :
    (∀ pdu, caGetInfoFromPDU lib gChproxyUri tcp pdu ≠ .outOfBounds)
    ∧ ((UriFaithful lib gChproxyUri tcp pdu₁ ∧ UriFaithful lib gChproxyUri tcp pdu₂
        ∧ UriUnambiguous lib gChproxyUri tcp pdu₁ pdu₂)
      ↔ UriCondition lib gChproxyUri pdu₁.options ∧ UriCondition lib gChproxyUri pdu₂.options) := by
  refine ⟨caGetInfoFromPDU_inBounds lib gChproxyUri tcp, ?_⟩
  rw [← uriFaithful_iff gChproxyUri tcp hlib hfit₁, ← uriFaithful_iff gChproxyUri tcp hlib hfit₂]
  constructor
  · rintro ⟨h₁, h₂, -⟩
    exact ⟨h₁, h₂⟩
  · rintro ⟨h₁, h₂⟩
    exact ⟨h₁, h₂, uriUnambiguous_of_faithful h₁ h₂⟩

/-! ## A query without a path -/

/-- `SetResourceUriAndType`: what the policy engine takes as the URI, the part before the question
mark, unless it is longer than `MAX_URI_LENGTH`. -/
def setResourceUri (resourceUri : List UInt8) : Option (List UInt8) :=
  let position := (resourceUri.takeWhile (· ≠ questionMark)).length
  if 256 < position then none else some (resourceUri.take position)

def libStrings : LibCoap where
  isVarBytes _ := false
  decodeVarBytes _ := 0

def oneOptionPdu (opt : CoapOption) : Pdu where
  type := .confirm
  id := 1
  code := caGet
  options := [opt]
  ordered := pairwise_singleton _ _
  token := []
  data := none

theorem query_read_as_path :
    (∃ info₁ info₂,
      caGetInfoFromPDU libStrings [] false (oneOptionPdu ⟨optUriPath, [97]⟩) = .ok caGet info₁
      ∧ caGetInfoFromPDU libStrings [] false (oneOptionPdu ⟨optUriQuery, [97]⟩) = .ok caGet info₂
      ∧ info₁.resourceUri = some [47, 97] ∧ info₂.resourceUri = some [47, 97]
      ∧ setResourceUri [47, 97] = some [47, 97])
    ∧ ¬UriFaithful libStrings [] false (oneOptionPdu ⟨optUriQuery, [97]⟩)
    ∧ ¬UriUnambiguous libStrings [] false (oneOptionPdu ⟨optUriPath, [97]⟩)
      (oneOptionPdu ⟨optUriQuery, [97]⟩) := by
  obtain ⟨info₁, hok₁, -, -, huri₁, -⟩ := @caGetInfoFromPDU_ok libStrings
    (oneOptionPdu ⟨optUriPath, [97]⟩) [] false (by decide) (by decide)
  obtain ⟨info₂, hok₂, -, -, huri₂, -⟩ := @caGetInfoFromPDU_ok libStrings
    (oneOptionPdu ⟨optUriQuery, [97]⟩) [] false (by decide) (by decide)
  have hsame : info₁.resourceUri = some [47, 97] ∧ info₂.resourceUri = some [47, 97] := by
    rw [huri₁, huri₂]
    decide
  refine ⟨⟨info₁, info₂, hok₁, hok₂, hsame.1, hsame.2, by decide⟩, ?_, ?_⟩
  · rintro ⟨code, info, hok, huri⟩
    rw [hok₂, PduResult.ok.injEq] at hok
    obtain ⟨-, rfl⟩ := hok
    rw [hsame.2] at huri
    exact absurd huri (by decide)
  · intro h
    have hpath : SeparatorFree (oneOptionPdu ⟨optUriPath, [97]⟩).options := by
      simp [SeparatorFree, oneOptionPdu, pathSegments, querySegments, optUriPath, optUriQuery,
        slash, questionMark, semicolon]
    have hquery : SeparatorFree (oneOptionPdu ⟨optUriQuery, [97]⟩).options := by
      simp [SeparatorFree, oneOptionPdu, pathSegments, querySegments, optUriPath, optUriQuery,
        slash, questionMark, semicolon]
    exact h hpath hquery (by decide) _ _ _ _ hok₁ hok₂ (hsame.1.trans hsame.2.symm)

theorem uriReassembly_iff_two_paths :
    (UriFaithful libStrings [] false (oneOptionPdu ⟨optUriPath, [97]⟩)
      ∧ UriFaithful libStrings [] false (oneOptionPdu ⟨optUriPath, [98]⟩)
      ∧ UriUnambiguous libStrings [] false (oneOptionPdu ⟨optUriPath, [97]⟩)
        (oneOptionPdu ⟨optUriPath, [98]⟩)) :=
  (uriReassembly_iff ⟨rfl, rfl⟩ [] false (oneOptionPdu ⟨optUriPath, [97]⟩)
    (oneOptionPdu ⟨optUriPath, [98]⟩) (by decide) (by decide)).2.mpr
    ⟨⟨by decide, .inl (by decide)⟩, ⟨by decide, .inl (by decide)⟩⟩

end Iochibity.Coap.PduOptions

namespace Iochibity.Coap.PduCodec

open PduOptions

inductive CoapTransport
  | udp
  | tcp
  | tcp8Bit
  | tcp16Bit
  | tcp32Bit
  deriving DecidableEq

/-- `coap_uri_t`, the fields that `CAParseURI` reads. -/
structure CoapUri where
  port : Nat
  path : List UInt8
  query : List UInt8
  deriving DecidableEq

/-- What `coap_split_path` and `coap_split_query` leave in a buffer: the options they
wrote, and how many bytes they did not use. -/
structure SplitParts where
  parts : List (List UInt8)
  unusedBufferSize : Nat
  deriving DecidableEq

structure Libcoap where
  /-- `coap_opt_def`, `coap_is_var_bytes` and `coap_decode_var_bytes`. -/
  base : PduOptions.LibCoap
  /-- `coap_opt_def(key)->max`. -/
  optMax : Nat → Nat
  /-- `coap_encode_var_bytes`. -/
  encodeVarBytes : Nat → List UInt8
  /-- `coap_insert`. -/
  insert : (CoapOption → CoapOption → Int) → List CoapOption → CoapOption → Option (List CoapOption)
  /-- `coap_split_uri`. -/
  splitUri : List UInt8 → CoapUri
  /-- `coap_split_path`, with the size of the buffer. -/
  splitPath : List UInt8 → Nat → SplitParts
  /-- `coap_split_query`. -/
  splitQuery : List UInt8 → Nat → SplitParts
  /-- `coap_get_opt_header_length`: the bytes of an option, by its delta and length. -/
  optHeaderLength : Nat → Nat → Nat
  /-- `coap_get_tcp_header_type_from_size`. -/
  headerTypeFromSize : Nat → CoapTransport
  /-- `coap_get_tcp_header_type_from_initbyte`. -/
  headerTypeFromInitbyte : Nat → CoapTransport
  /-- `coap_get_tcp_header_length_for_transport`. -/
  headerLength : CoapTransport → Nat
  /-- `coap_pdu_t` while it is built. -/
  Buf : Type
  /-- `coap_pdu_init2`. -/
  pduInit : Nat → CoapTransport → Option Buf
  /-- `coap_add_length`. -/
  addLength : Buf → CoapTransport → Nat → Buf
  /-- `coap_add_code`. -/
  addCode : Buf → CoapTransport → Nat → Buf
  /-- `coap_add_token2`; the code only logs what it returns. -/
  addToken : Buf → List UInt8 → CoapTransport → Buf
  /-- `coap_add_option2`. -/
  addOption : Buf → Nat → List UInt8 → CoapTransport → Option Buf
  /-- `coap_add_data`; the code does not look at what it returns. -/
  addData : Buf → List UInt8 → Buf
  /-- The bytes of a PDU, `transport_hdr` and `length`. -/
  bytes : Buf → List UInt8
  /-- `coap_pdu_parse2`, with what the accessors give for the parsed PDU. -/
  parse : Buf → List UInt8 → CoapTransport → Option Pdu

def caMaxTokenLength : Nat := 8
def coapDefaultPort : Nat := 5683
def uintMax : Nat := 4294967295
def payloadMarker : Nat := 1
def coapMediatypeApplicationCbor : Nat := 60
def coapMediatypeApplicationVndOcfCbor : Nat := 10000

def coapUriHeader : List UInt8 := [99, 111, 97, 112, 58, 47, 47, 91, 58, 58, 93, 47]

/-- A cast to `unsigned int`. -/
def toUnsigned (n : Nat) : Nat := n % 4294967296

/-- The results of the functions below that are not `CA_STATUS_OK`. -/
inductive Refusal
  | invalidParam
  | failed
  | notSupported
  deriving DecidableEq

/-- `CAInfo_t` of an outgoing message, the fields the encoder reads over TCP. Token
and payload are null when they are empty. -/
structure SendInfo where
  type : CAMessageType
  token : List UInt8
  options : List CoapOption
  payload : List UInt8
  payloadFormat : CAPayloadFormat
  acceptFormat : CAPayloadFormat
  payloadVersion : UInt16
  acceptVersion : UInt16
  resourceUri : Option (List UInt8)

/-! ## The option list -/

/-- `CAOrderOpts`: not antisymmetric, since equal numbers give 1 both ways. -/
def caOrderOpts (a b : CoapOption) : Int :=
  if a.type < b.type then -1 else if a.type = b.type then 1 else 0

section Encoder

variable (lib : Libcoap)

/-- What is left of an integer value that is longer than its definition allows: the
leading bytes are disregarded. -/
def shrink (key : Nat) (data : List UInt8) : List UInt8 :=
  if data.length > lib.optMax key then data.drop (data.length - lib.optMax key) else data

def caCreateNewOptionNode (key : Nat) (data : List UInt8) : CoapOption :=
  if lib.base.isVarBytes key then
    ⟨key, lib.encodeVarBytes (lib.base.decodeVarBytes (shrink lib key data))⟩
  else ⟨key, data⟩

def insertNode (optlist : List CoapOption) (node : CoapOption) :
    Except Refusal (List CoapOption) :=
  match lib.insert caOrderOpts optlist node with
  | some optlist => .ok optlist
  | none => .error .invalidParam

/-- The loop of `CAParseUriPartial` over the options in `uriBuffer`. -/
def uriPartsLoop (target usedBufferSize : Nat) :
    List (List UInt8) → Nat → List CoapOption → Except Refusal (List CoapOption)
  | [], _, optlist => .ok optlist
  | part :: parts, prevIdx, optlist => do
      let optlist ← insertNode lib optlist (caCreateNewOptionNode lib target part)
      -- `COAP_OPT_SIZE`: the pseudo options have a delta of zero
      let optSize := CoapWire.optionSize 0 part.length
      if prevIdx + optSize > usedBufferSize then .error .invalidParam
      else uriPartsLoop target usedBufferSize parts (prevIdx + optSize) optlist

def caParseUriPartial (str : List UInt8) (target : Nat) (optlist : List CoapOption) :
    Except Refusal (List CoapOption) :=
  if target ≠ optUriPath ∧ target ≠ optUriQuery then .error .notSupported
  else if str = [] then .error .failed
  else
    let split := if target = optUriPath then lib.splitPath str PduOptions.caMaxUriLength
      else lib.splitQuery str PduOptions.caMaxUriLength
    if split.parts = [] then .error .failed
    else uriPartsLoop lib target (PduOptions.caMaxUriLength - split.unusedBufferSize) split.parts
      0 optlist

def caParseURI (uriInfo : List UInt8) (optlist : List CoapOption) :
    Except Refusal (List CoapOption) := do
  let uri := lib.splitUri uriInfo
  let optlist ← if uri.port ≠ coapDefaultPort then
      insertNode lib optlist (caCreateNewOptionNode lib optUriPort (lib.encodeVarBytes uri.port))
    else .ok optlist
  let optlist ←
    if uri.path ≠ [] then caParseUriPartial lib uri.path optUriPath optlist else .ok optlist
  if uri.query ≠ [] then caParseUriPartial lib uri.query optUriQuery optlist else .ok optlist

/-- The header options that the loop of `CAParseHeadOption` passes over. -/
def isHandledElsewhere (id : Nat) : Bool :=
  id == optUriPath || id == optUriQuery || id == optAccept
    || id == ocfAcceptContentFormatVersion || id == optContentFormat
    || id == ocfContentFormatVersion

/-- The loop of `CAParseHeadOption`. -/
def headOptionLoop : List CoapOption → List CoapOption → Except Refusal (List CoapOption)
  | [], optlist => .ok optlist
  | opt :: opts, optlist =>
    if isHandledElsewhere opt.type then headOptionLoop opts optlist
    else do
      let optlist ← insertNode lib optlist (caCreateNewOptionNode lib opt.type opt.value)
      headOptionLoop opts optlist

def mediaType : CAPayloadFormat → Option Nat
  | .applicationCbor => some coapMediatypeApplicationCbor
  | .applicationVndOcfCbor => some coapMediatypeApplicationVndOcfCbor
  | _ => none

variable (formatOption : Nat) (format : CAPayloadFormat) (versionOption : Nat) (version : UInt16)
  (optlist : List CoapOption)

/-- `CAParsePayloadFormatHeadOption`: the list afterwards, since the caller does not
look at the result. -/
def caParsePayloadFormatHeadOption : List CoapOption :=
  match mediaType format with
  | none => optlist
  | some media =>
    let encodeNode := caCreateNewOptionNode lib formatOption (lib.encodeVarBytes media)
    match lib.insert caOrderOpts optlist encodeNode with
    | none => optlist
    | some optlist =>
      if (versionOption = ocfAcceptContentFormatVersion ∨ versionOption = ocfContentFormatVersion)
          ∧ format = .applicationVndOcfCbor then
        let versionNode :=
          caCreateNewOptionNode lib versionOption (lib.encodeVarBytes version.toNat)
        match lib.insert caOrderOpts optlist versionNode with
        | none => optlist
        | some optlist => optlist
      else optlist

def formatHeadOption : List CoapOption :=
  if format ≠ .undefined then
    caParsePayloadFormatHeadOption lib formatOption format versionOption version optlist
  else optlist

def caParseHeadOption (info : SendInfo) (optlist : List CoapOption) :
    Except Refusal (List CoapOption) := do
  let optlist ← headOptionLoop lib info.options optlist
  let optlist := formatHeadOption lib optContentFormat info.payloadFormat
    ocfContentFormatVersion info.payloadVersion optlist
  .ok (formatHeadOption lib optAccept info.acceptFormat ocfAcceptContentFormatVersion
    info.acceptVersion optlist)

/-! ## The PDU -/

def optionsLength : Nat → Nat → List CoapOption → Option Nat
  | _, msgLength, [] => some msgLength
  | prevOptNumber, msgLength, opt :: opts =>
    if prevOptNumber > opt.type then none
    else
      let optLength := lib.optHeaderLength (opt.type - prevOptNumber) opt.value.length
      if optLength = 0 then none
      else optionsLength opt.type (msgLength + optLength) opts

def addOptionsLoop (transport : CoapTransport) : List CoapOption → lib.Buf → Option lib.Buf
  | [], pdu => some pdu
  | opt :: opts, pdu => do
      let pdu ← lib.addOption pdu opt.type opt.value transport
      addOptionsLoop transport opts pdu

/-- `CAGeneratePDUImpl` over TCP. -/
def caGeneratePDUImpl (code : Nat) (info : SendInfo) (options : List CoapOption) :
    Option lib.Buf :=
  if info.payload.length > uintMax then none
  else do
    let msgLength ← optionsLength lib 0 0 options
    let msgLength :=
      if info.payload.length > 0 then msgLength + info.payload.length + payloadMarker
      else msgLength
    let transport := lib.headerTypeFromSize (toUnsigned msgLength)
    let length := msgLength + lib.headerLength transport + info.token.length
    let pdu ← lib.pduInit length transport
    let pdu := lib.addLength pdu transport (toUnsigned msgLength)
    let pdu := lib.addCode pdu transport code
    let pdu := if info.token ≠ [] ∧ code ≠ caEmpty then lib.addToken pdu info.token transport
      else pdu
    let pdu ← addOptionsLoop lib transport options pdu
    some (if info.payload.length > 0 then lib.addData pdu info.payload else pdu)

def uriOptlist (info : SendInfo) : Except Refusal (List CoapOption) :=
  match info.resourceUri with
  | none => .ok []
  | some resourceUri =>
    if PduOptions.caMaxUriLength < resourceUri.length then .error .failed
    else caParseURI lib (coapUriHeader ++ resourceUri) []

def caGeneratePDU (code : Nat) (info : SendInfo) : Option lib.Buf :=
  if info.type = .reset ∨ (code = caEmpty ∧ info.type = .acknowledge) then
    if code ≠ caEmpty then none
    else if info.payload ≠ [] ∨ info.token ≠ [] then none
    else caGeneratePDUImpl lib code info []
  else
    match (do
      let optlist ← uriOptlist lib info
      caParseHeadOption lib info optlist : Except Refusal (List CoapOption)) with
    | .error _ => none
    | .ok optlist => caGeneratePDUImpl lib code info optlist

/-- `CAParsePDU` over TCP. -/
def caParsePDU (data : List UInt8) : Option Pdu := do
  let transport := lib.headerTypeFromInitbyte ((data.headD 0).toNat / 16)
  let outpdu ← lib.pduInit data.length transport
  lib.parse outpdu data transport

end Encoder

/-! ## What libcoap does -/

structure PduParts where
  size : Nat
  transport : CoapTransport
  length : Nat
  message : CoapWire.Message
  deriving DecidableEq

def PduParts.addOptions (p : PduParts) (opts : List (Nat × List UInt8)) : PduParts :=
  { p with message := { p.message with options := p.message.options ++ opts } }

namespace Libcoap

variable (lib : Libcoap)

def used (p : PduParts) : Nat :=
  lib.headerLength p.transport + p.message.token.length + p.message.body.length

def IsPduOf (pdu : Pdu) (m : CoapWire.Message) : Prop :=
  pdu.code = m.code ∧ pdu.token = m.token ∧ pdu.options = m.options.map (fun opt => ⟨opt.1, opt.2⟩)
    ∧ pdu.data = if m.payload = [] then none else some m.payload

/-- What libcoap does, by its documentation, RFC 7252 and RFC 8323. `Holds buf p` says that `p` is
what has been put into `buf`. -/
structure FollowsRfc (Holds : lib.Buf → PduParts → Prop) : Prop where
  /-- Integers are written in the fewest bytes. -/
  encodeVarBytes : ∀ n ≤ uintMax, lib.encodeVarBytes n = CoapWire.minimalBytes n
  decodeVarBytes : ∀ data : List UInt8, data.length ≤ 4 →
    lib.base.decodeVarBytes data = CoapWire.bigEndian data
  /-- No integer option has more than four bytes; a format or a version may have two;
  paths and queries are strings. -/
  optMax_le : ∀ key, lib.base.isVarBytes key = true → lib.optMax key ≤ 4
  two_le_optMax : ∀ key, key = optContentFormat ∨ key = optAccept
    ∨ key = ocfContentFormatVersion ∨ key = ocfAcceptContentFormatVersion →
    lib.base.isVarBytes key = true → 2 ≤ lib.optMax key
  uriStrings : lib.base.UriOptionsAreStrings
  /-- A node is put before the first one that it is ordered before. -/
  insert : ∀ order optlist node, lib.insert order optlist node
    = some (optlist.takeWhile (fun q => decide (0 ≤ order node q))
      ++ node :: optlist.dropWhile (fun q => decide (0 ≤ order node q)))
  /-- The bytes of an option and of a header. -/
  optHeaderLength : ∀ delta len, delta ≤ 65535 → len ≤ CoapWire.maxExtended →
    lib.optHeaderLength delta len = CoapWire.optionSize delta len
  headerLength : ∀ n ≤ uintMax, lib.headerLength (lib.headerTypeFromSize n) = CoapWire.headerSize n
  /-- A new PDU has nothing in it. -/
  pduInit : ∀ size transport, ∃ buf, lib.pduInit size transport = some buf
    ∧ Holds buf ⟨size, transport, 0, ⟨0, [], [], []⟩⟩
  addLength : ∀ buf p n, Holds buf p →
    Holds (lib.addLength buf p.transport n) { p with length := n }
  addCode : ∀ buf p code, Holds buf p → Holds (lib.addCode buf p.transport code)
    { p with message := { p.message with code := coapResponseCode code } }
  /-- Token, options and payload are added in this order, while there is room. -/
  addToken : ∀ buf p token, Holds buf p → p.message.token = [] → p.message.options = [] →
    p.message.payload = [] → token.length ≤ caMaxTokenLength →
    lib.used p + token.length ≤ p.size →
    Holds (lib.addToken buf token p.transport)
      { p with message := { p.message with token := token } }
  addOption : ∀ buf p key value, Holds buf p → p.message.payload = [] →
    CoapWire.lastNumber 0 p.message.options ≤ key → key ≤ 65535 →
    value.length ≤ CoapWire.maxExtended →
    lib.used p + CoapWire.optionSize (key - CoapWire.lastNumber 0 p.message.options) value.length
      ≤ p.size →
    ∃ buf', lib.addOption buf key value p.transport = some buf'
      ∧ Holds buf' (p.addOptions [(key, value)])
  addData : ∀ buf p data, Holds buf p → p.message.payload = [] → data ≠ [] →
    lib.used p + data.length + 1 ≤ p.size →
    Holds (lib.addData buf data) { p with message := { p.message with payload := data } }
  /-- A PDU whose header is right for what is in it has the bytes of the message. -/
  bytes : ∀ buf p, Holds buf p → p.transport = lib.headerTypeFromSize p.message.body.length →
    p.length = p.message.body.length → lib.used p ≤ uintMax →
    lib.bytes buf = CoapWire.encode p.message
  /-- The bytes of a message are read as that message. -/
  parse : ∀ data m size transport buf, CoapWire.decode data = some m → m.WellFormed →
    (∀ opt ∈ m.options, opt.1 ≤ 65535) →
    transport = lib.headerTypeFromInitbyte ((data.headD 0).toNat / 16) → data.length ≤ size →
    lib.pduInit size transport = some buf →
    ∃ pdu, lib.parse buf data transport = some pdu ∧ IsPduOf pdu m

end Libcoap

open List
open StableOrder (insertAfter sortBy)

/-! ## 1. Insertion -/

def insertAll (optlist nodes : List CoapOption) : List CoapOption :=
  nodes.foldl (fun acc node => insertAfter CoapOption.type node acc) optlist

@[simp] lemma insertAll_nil (optlist : List CoapOption) : insertAll optlist [] = optlist := rfl

lemma insertAll_cons (optlist : List CoapOption) (node : CoapOption) (nodes : List CoapOption) :
    insertAll optlist (node :: nodes)
      = insertAll (insertAfter CoapOption.type node optlist) nodes := rfl

lemma insertAll_append (optlist nodes nodes' : List CoapOption) :
    insertAll optlist (nodes ++ nodes') = insertAll (insertAll optlist nodes) nodes' :=
  foldl_append

lemma insertAll_eq_sortBy (nodes : List CoapOption) :
    insertAll [] nodes = sortBy CoapOption.type nodes :=
  StableOrder.foldl_insertAfter nodes List.Pairwise.nil

lemma caOrderOpts_nonneg_iff (a b : CoapOption) : 0 ≤ caOrderOpts a b ↔ ¬a.type < b.type := by
  unfold caOrderOpts
  split_ifs <;> omega

lemma insertAfter_eq (node : CoapOption) (optlist : List CoapOption) :
    optlist.takeWhile (fun q => decide (0 ≤ caOrderOpts node q))
        ++ node :: optlist.dropWhile (fun q => decide (0 ≤ caOrderOpts node q))
      = insertAfter CoapOption.type node optlist := by
  induction optlist with
  | nil => rfl
  | cons q optlist ih =>
    rw [insertAfter]
    by_cases hlt : node.type < q.type
    · have hfalse : decide (0 ≤ caOrderOpts node q) = false := by
        rw [decide_eq_false_iff_not, caOrderOpts_nonneg_iff]
        exact not_not.mpr hlt
      simp [hlt, hfalse]
    have htrue : decide (0 ≤ caOrderOpts node q) = true := by
      rw [decide_eq_true_eq, caOrderOpts_nonneg_iff]
      exact hlt
    rw [if_neg hlt, takeWhile_cons_of_pos (by simpa using htrue),
      dropWhile_cons_of_pos (by simpa using htrue), cons_append, ih]

def isFormatOption (key : Nat) : Bool :=
  key == optContentFormat || key == optAccept || key == ocfContentFormatVersion
    || key == ocfAcceptContentFormatVersion

/-- The bytes that parts of the URI take in `uriBuffer`. -/
def partsSize (parts : List (List UInt8)) : Nat :=
  (parts.map (CoapWire.optionSize 0 ·.length)).sum

def formatNodes (lib : Libcoap) (formatOption : Nat) (format : CAPayloadFormat)
    (versionOption : Nat) (version : UInt16) : List CoapOption :=
  match format with
  | .applicationCbor => [⟨formatOption, [60]⟩]
  | .applicationVndOcfCbor =>
    [⟨formatOption, [39, 16]⟩,
      caCreateNewOptionNode lib versionOption (lib.encodeVarBytes version.toNat)]
  | _ => []

section Nodes

variable {lib : Libcoap} {Holds : lib.Buf → PduParts → Prop} (hlib : lib.FollowsRfc Holds)
include hlib

lemma insert_eq (optlist : List CoapOption) (node : CoapOption) :
    lib.insert caOrderOpts optlist node = some (insertAfter CoapOption.type node optlist) := by
  rw [hlib.insert, insertAfter_eq]

lemma insertNode_eq (optlist : List CoapOption) (node : CoapOption) :
    insertNode lib optlist node = .ok (insertAfter CoapOption.type node optlist) := by
  rw [insertNode, insert_eq hlib]

/-! ## 2. Nodes -/

lemma node_of_uri {target : Nat} (htarget : target = optUriPath ∨ target = optUriQuery)
    (part : List UInt8) : caCreateNewOptionNode lib target part = ⟨target, part⟩ := by
  have hstring : lib.base.isVarBytes target = false := by
    rcases htarget with rfl | rfl
    · exact hlib.uriStrings.1
    · exact hlib.uriStrings.2
  rw [caCreateNewOptionNode, if_neg (by rw [hstring]; exact Bool.false_ne_true)]

variable (key : Nat) (data : List UInt8)

lemma node_value :
    caCreateNewOptionNode lib key data
      = if lib.base.isVarBytes key then ⟨key, (shrink lib key data).dropWhile (· == 0)⟩
        else ⟨key, data⟩ := by
  rw [caCreateNewOptionNode]
  split_ifs with hvar
  · have hmax := hlib.optMax_le key hvar
    have hlen : (shrink lib key data).length ≤ 4 := by
      unfold shrink
      split_ifs
      · rw [length_drop]
        omega
      · omega
    have hlt : CoapWire.bigEndian (shrink lib key data) ≤ uintMax := by
      have hpow := Nat.ofDigits_lt_base_pow_length (b := 256)
        (l := ((shrink lib key data).map UInt8.toNat).reverse) (by decide) (by
          intro d hd
          rw [mem_reverse, mem_map] at hd
          obtain ⟨c, -, rfl⟩ := hd
          exact UInt8.toNat_lt c)
      rw [length_reverse, length_map] at hpow
      have hmono : 256 ^ (shrink lib key data).length ≤ 256 ^ 4 :=
        Nat.pow_le_pow_right (by decide) hlen
      unfold CoapWire.bigEndian uintMax
      omega
    rw [hlib.decodeVarBytes _ hlen, hlib.encodeVarBytes _ hlt, CoapWire.minimalBytes_bigEndian]
  · rfl

omit hlib in
lemma type_node : (caCreateNewOptionNode lib key data).type = key := by
  rw [caCreateNewOptionNode]
  split_ifs <;> rfl

lemma length_node_le : (caCreateNewOptionNode lib key data).value.length ≤ data.length := by
  rw [node_value hlib]
  split_ifs
  · have hdrop := (dropWhile_suffix (l := shrink lib key data) (· == 0)).length_le
    have hshrink : (shrink lib key data).length ≤ data.length := by
      unfold shrink
      split_ifs
      · rw [length_drop]
        omega
      · exact Nat.le_refl _
    exact Nat.le_trans hdrop hshrink
  · exact Nat.le_refl _

lemma node_of_format {key : Nat} (hkey : isFormatOption key = true) {b : UInt8}
    {bytes : List UInt8} (hb : b ≠ 0) (hlen : (b :: bytes).length ≤ 2) :
    caCreateNewOptionNode lib key (b :: bytes) = ⟨key, b :: bytes⟩ := by
  rw [node_value hlib]
  split_ifs with hvar
  · have hmax : 2 ≤ lib.optMax key := by
      apply hlib.two_le_optMax key _ hvar
      simpa [isFormatOption, or_assoc] using hkey
    have hwhole : shrink lib key (b :: bytes) = b :: bytes := by
      unfold shrink
      rw [if_neg (by omega)]
    rw [hwhole, dropWhile_cons_of_neg (by simpa using hb)]
  · rfl

/-! ## 3. The list -/

lemma uriPartsLoop_ok {target used : Nat} (htarget : target = optUriPath ∨ target = optUriQuery)
    (parts : List (List UInt8)) {prevIdx : Nat} (optlist : List CoapOption)
    (hfits : prevIdx + (parts.map (CoapWire.optionSize 0 ·.length)).sum ≤ used) :
    uriPartsLoop lib target used parts prevIdx optlist
      = .ok (insertAll optlist (parts.map (⟨target, ·⟩))) := by
  induction parts generalizing prevIdx optlist with
  | nil => rfl
  | cons part parts ih =>
    rw [map_cons, sum_cons] at hfits
    rw [uriPartsLoop, insertNode_eq hlib, node_of_uri hlib htarget]
    simp only [bind, Except.bind]
    rw [if_neg (by omega), ih _ (by omega), map_cons, insertAll_cons]

lemma caParseUriPartial_ok {target : Nat} (htarget : target = optUriPath ∨ target = optUriQuery)
    {str : List UInt8} (hstr : str ≠ []) {parts : List (List UInt8)} (hparts : parts ≠ [])
    (hfits : partsSize parts ≤ PduOptions.caMaxUriLength)
    (hsplit : (if target = optUriPath then lib.splitPath str PduOptions.caMaxUriLength
      else lib.splitQuery str PduOptions.caMaxUriLength)
      = ⟨parts, PduOptions.caMaxUriLength - partsSize parts⟩)
    (optlist : List CoapOption) :
    caParseUriPartial lib str target optlist
      = .ok (insertAll optlist (parts.map (⟨target, ·⟩))) := by
  have hknown : ¬(target ≠ optUriPath ∧ target ≠ optUriQuery) := by
    rintro ⟨hpath, hquery⟩
    exact htarget.elim hpath hquery
  rw [caParseUriPartial, if_neg hknown, if_neg hstr, hsplit]
  simp only [if_neg hparts]
  apply uriPartsLoop_ok hlib htarget
  unfold partsSize at hfits ⊢
  omega

lemma headOptionLoop_ok {opts : List CoapOption}
    (hopts : ∀ opt ∈ opts, isHandledElsewhere opt.type = false) (optlist : List CoapOption) :
    headOptionLoop lib opts optlist
      = .ok (insertAll optlist
        (opts.map (fun opt => caCreateNewOptionNode lib opt.type opt.value))) := by
  induction opts generalizing optlist with
  | nil => rfl
  | cons opt opts ih =>
    rw [forall_mem_cons] at hopts
    rw [headOptionLoop, if_neg (by rw [hopts.1]; exact Bool.false_ne_true), insertNode_eq hlib]
    simp only [bind, Except.bind]
    rw [ih hopts.2, map_cons, insertAll_cons]

omit hlib in
lemma minimalBytes_mediaTypes :
    CoapWire.minimalBytes coapMediatypeApplicationCbor = [60]
      ∧ CoapWire.minimalBytes coapMediatypeApplicationVndOcfCbor = [39, 16] := by
  constructor <;> decide

lemma formatHeadOption_eq {formatOption versionOption : Nat}
    (hformat : isFormatOption formatOption = true)
    (hversion : versionOption = ocfAcceptContentFormatVersion
      ∨ versionOption = ocfContentFormatVersion)
    (format : CAPayloadFormat) (version : UInt16) (optlist : List CoapOption) :
    formatHeadOption lib formatOption format versionOption version optlist
      = insertAll optlist (formatNodes lib formatOption format versionOption version) := by
  have hcbor : lib.encodeVarBytes coapMediatypeApplicationCbor = [60] := by
    rw [hlib.encodeVarBytes _ (by decide), minimalBytes_mediaTypes.1]
  have hvnd : lib.encodeVarBytes coapMediatypeApplicationVndOcfCbor = [39, 16] := by
    rw [hlib.encodeVarBytes _ (by decide), minimalBytes_mediaTypes.2]
  cases format with
  | applicationCbor =>
    simp only [formatHeadOption, caParsePayloadFormatHeadOption, mediaType, hcbor]
    rw [node_of_format hlib hformat (by decide) (by decide), insert_eq hlib]
    simp [formatNodes, insertAll_cons]
  | applicationVndOcfCbor =>
    simp only [formatHeadOption, caParsePayloadFormatHeadOption, mediaType, hvnd]
    rw [node_of_format hlib hformat (by decide) (by decide), insert_eq hlib]
    simp [formatNodes, insertAll_cons, hversion, insert_eq hlib]
  | _ => simp [formatHeadOption, caParsePayloadFormatHeadOption, mediaType, formatNodes]

end Nodes

end Iochibity.Coap.PduCodec
