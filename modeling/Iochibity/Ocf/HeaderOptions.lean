/-
The header options between the resources and the layer below: the observe option that
`ocobserve.c` puts in front of a request and takes out again, and the options that
`HandleSingleResponse` in `ocserverrequest.c` counts in one pass and fills in in another.
-/
import Iochibity.Coap.PduOptions
import Iochibity.Ocf.ObserveSequence
import Iochibity.Ocf.ServerRequest
import Iochibity.Ocf.StackResult

namespace Iochibity.Ocf

open Coap (CString)
open Coap.PduOptions (CAHeaderOption caCoapId caMaxHeaderOptionDataLength ocfContentFormatVersion)
open List

/-! ## The observe option -/

def isObserveOption (option : CAHeaderOption) : Bool :=
  option.protocolID = caCoapId ∧ option.optionID = coapOptionObserve.toNat

/-- `tmpHdrOpt` comes from `OICCalloc`, so the rest of the data is zero. -/
def createObserveHeaderOption (ocHdrOpt : List CAHeaderOption) (observeFlag : UInt8) :
    List CAHeaderOption :=
  { protocolID := caCoapId, optionID := coapOptionObserve.toNat, optionLength := 1
    optionData := observeFlag :: List.replicate (caMaxHeaderOptionDataLength - 1) 0 } :: ocHdrOpt

/-- `options[i] = options[i + 1]`. -/
def copyNext (i : ℕ) (options : List CAHeaderOption) : List CAHeaderOption :=
  match options[i + 1]? with
  | some next => options.set i next
  | none => options

/-- The inner loop with the rounds it has left. Its counter `c` does not occur in its body. -/
def moveOptions (i : ℕ) : ℕ → List CAHeaderOption → List CAHeaderOption
  | 0, options => options
  | rounds + 1, options => moveOptions i rounds (copyNext i options)

/-- What `GetObserveHeaderOption` leaves: the array and the number of its entries. -/
structure ObserveTaken where
  observationOption : UInt32
  options : List CAHeaderOption
  numOptions : ℕ

/-- `GetObserveHeaderOption`; `ofChar` is what the platform makes of a `char`. -/
def getObserveHeaderOption (ofChar : UInt8 → UInt32) (observationOption : UInt32)
    (options : List CAHeaderOption) : ObserveTaken :=
  match options.findIdx? isObserveOption with
  | none => ⟨observationOption, options, options.length⟩
  | some i =>
    ⟨ofChar ((options.getD i .zero).optionData.getD 0 0),
      moveOptions i (options.length - 1 - i) options, options.length - 1⟩

def ObserveTaken.left (taken : ObserveTaken) : List CAHeaderOption :=
  taken.options.take taken.numOptions

def optionValue (option : CAHeaderOption) : ℕ :=
  (option.optionData.take option.optionLength).foldl (fun n byte => 256 * n + byte.toNat) 0

section Taking

variable {before behind : List CAHeaderOption} {option : CAHeaderOption}

lemma moveOptions_eq {i : ℕ} {options : List CAHeaderOption}
    (h : copyNext i (copyNext i options) = copyNext i options) (rounds : ℕ) :
    moveOptions i (rounds + 1) options = copyNext i options := by
  induction rounds with
  | zero => rfl
  | succ rounds ih => rw [moveOptions, moveOptions, h, ← moveOptions, ih]

lemma copyNext_append (next : CAHeaderOption) :
    copyNext before.length (before ++ option :: next :: behind)
      = before ++ next :: next :: behind := by
  rw [copyNext, getElem?_append_right (by omega), Nat.add_sub_cancel_left]
  simp

lemma moveOptions_append (next : CAHeaderOption) (rounds : ℕ) :
    moveOptions before.length (rounds + 1) (before ++ option :: next :: behind)
      = before ++ next :: next :: behind := by
  rw [moveOptions_eq _ rounds, copyNext_append]
  rw [copyNext_append, copyNext_append]

variable (ofChar : UInt8 → UInt32) (observationOption : UInt32)

lemma left_of_observe (hbefore : ∀ entry ∈ before, isObserveOption entry = false)
    (hoption : isObserveOption option = true) :
    (getObserveHeaderOption ofChar observationOption (before ++ option :: behind)).left
      = before ++ (behind.head?.toList ++ behind).take behind.length := by
  have hidx : (before ++ option :: behind).findIdx? isObserveOption = some before.length := by
    rw [findIdx?_append, findIdx?_eq_none_iff.mpr hbefore, findIdx?_cons, if_pos hoption]
    simp
  rw [getObserveHeaderOption, hidx, ObserveTaken.left, length_append, length_cons]
  simp only [Nat.add_sub_cancel, ← Nat.add_assoc, Nat.add_sub_cancel_left]
  cases behind with
  | nil => simp [moveOptions]
  | cons next rest =>
    rw [length_cons, moveOptions_append, take_length_add_append]
    rfl

lemma take_eq_iff_isChain (next : CAHeaderOption) (rest : List CAHeaderOption) :
    (next :: rest).take rest.length = rest ↔ (next :: rest).IsChain (· = ·) := by
  induction rest generalizing next with
  | nil => simp
  | cons entry rest ih =>
    rw [length_cons, take_succ_cons, List.cons.injEq, isChain_cons_cons, ← ih]

variable (options : List CAHeaderOption)

def behindObserve : List CAHeaderOption :=
  (options.dropWhile (!isObserveOption ·)).tail

lemma observe_cases :
    (∀ entry ∈ options, isObserveOption entry = false)
      ∨ ∃ before option behind, options = before ++ option :: behind
        ∧ (∀ entry ∈ before, isObserveOption entry = false)
        ∧ isObserveOption option = true := by
  cases hfind : options.find? isObserveOption with
  | none => exact Or.inl (by simpa using hfind)
  | some option =>
    obtain ⟨hoption, before, behind, rfl, hbefore⟩ := find?_eq_some_iff_append.mp hfind
    exact Or.inr ⟨before, option, behind, rfl, by simpa using hbefore, hoption⟩

lemma get_of_none {options : List CAHeaderOption}
    (h : ∀ entry ∈ options, isObserveOption entry = false) :
    getObserveHeaderOption ofChar observationOption options
      = ⟨observationOption, options, options.length⟩ := by
  rw [getObserveHeaderOption, findIdx?_eq_none_iff.mpr h]

lemma behindObserve_append (hbefore : ∀ entry ∈ before, isObserveOption entry = false)
    (hoption : isObserveOption option = true) :
    behindObserve (before ++ option :: behind) = behind := by
  rw [behindObserve, dropWhile_append_of_pos (by simpa using hbefore),
    dropWhile_cons_of_neg (by simpa using hoption), tail_cons]

lemma left_eq_iff :
    (getObserveHeaderOption ofChar observationOption options).left = options.eraseP isObserveOption
      ↔ (behindObserve options).IsChain (· = ·) := by
  obtain h | ⟨before, option, behind, rfl, hbefore, hoption⟩ := observe_cases options
  · rw [get_of_none ofChar observationOption h, ObserveTaken.left, take_length,
      eraseP_of_forall_not (by simpa using h), behindObserve,
      dropWhile_eq_nil_iff.mpr (by simpa using h)]
    simp
  rw [left_of_observe ofChar observationOption hbefore hoption,
    behindObserve_append hbefore hoption, eraseP_append_right _ (by simpa using hbefore),
    eraseP_cons_of_pos hoption, append_cancel_left_eq]
  cases behind with
  | nil => simp
  | cons next rest =>
    rw [← take_eq_iff_isChain]
    simp

lemma observationOption_eq :
    (getObserveHeaderOption ofChar observationOption options).observationOption
      = match options.find? isObserveOption with
        | none => observationOption
        | some option => ofChar (option.optionData.getD 0 0) := by
  obtain h | ⟨before, option, behind, rfl, hbefore, hoption⟩ := observe_cases options
  · rw [get_of_none ofChar observationOption h, find?_eq_none.mpr (by simpa using h)]
  rw [find?_append, find?_eq_none.mpr (by simpa using hbefore), Option.none_or,
    find?_cons_of_pos hoption, getObserveHeaderOption, findIdx?_append,
    findIdx?_eq_none_iff.mpr hbefore, findIdx?_cons, if_pos hoption]
  simp

end Taking

/-- Where the first byte of the observe option, as a `char`, is its value. -/
def ByteValued (ofChar : UInt8 → UInt32) (option : CAHeaderOption) : Prop :=
  (ofChar (option.optionData.getD 0 0)).toNat = optionValue option

/-- An observe option is taken out, and read, exactly where the entries behind it are all the
same and its value is its first byte; what was put in front of a list comes back, and the list,
exactly where the entries of the list are all the same. -/
theorem getObserveHeaderOption_exact (ofChar : UInt8 → UInt32) :
    (∀ options observationOption,
      ((getObserveHeaderOption ofChar observationOption options).left
            = options.eraseP isObserveOption
          ∧ (getObserveHeaderOption ofChar observationOption options).observationOption.toNat
            = match options.find? isObserveOption with
              | none => observationOption.toNat
              | some option => optionValue option)
        ↔ (behindObserve options).IsChain (· = ·)
          ∧ ∀ option, options.find? isObserveOption = some option → ByteValued ofChar option)
      ∧ ∀ options observeFlag observationOption,
        ((getObserveHeaderOption ofChar observationOption
              (createObserveHeaderOption options observeFlag)).left = options
            ∧ (getObserveHeaderOption ofChar observationOption
              (createObserveHeaderOption options observeFlag)).observationOption
                = observeFlag.toUInt32)
          ↔ options.IsChain (· = ·) ∧ ofChar observeFlag = observeFlag.toUInt32 := by
  refine ⟨fun options observationOption => ?_, fun options observeFlag observationOption => ?_⟩
  · rw [left_eq_iff, observationOption_eq]
    cases options.find? isObserveOption with
    | none => simp
    | some option => simp [ByteValued]
  · have hobserve : ∃ option, createObserveHeaderOption options observeFlag = option :: options
        ∧ isObserveOption option = true ∧ option.optionData.getD 0 0 = observeFlag :=
      ⟨_, rfl, rfl, rfl⟩
    obtain ⟨option, hcreate, hoption, hflag⟩ := hobserve
    have hleft := left_eq_iff ofChar observationOption (option :: options)
    rw [eraseP_cons_of_pos hoption, ← nil_append (option :: options),
      behindObserve_append (forall_mem_nil _) hoption, nil_append] at hleft
    rw [hcreate, hleft, observationOption_eq, find?_cons_of_pos hoption]
    simp only [hflag]

theorem getObserveHeaderOption_two_behind :
    ¬ (getObserveHeaderOption UInt8.toUInt32 2
        (createObserveHeaderOption [{ CAHeaderOption.zero with optionID := 17 },
          { CAHeaderOption.zero with optionID := 2049 }] 0)).left
      = [{ CAHeaderOption.zero with optionID := 17 },
          { CAHeaderOption.zero with optionID := 2049 }] := by
  intro h
  have hids := congrArg (List.map CAHeaderOption.optionID) h
  revert hids
  decide

/-! ## The options of a response -/

def coapOptionContentFormat : ℕ := 12

def caHeaderOptionIdLocationPath : ℕ := 8

def ocfVersion100 : UInt16 := 2048

def coapMediatypeApplicationVndOcfCbor : UInt16 := 10000

/-- `CA_FORMAT_APPLICATION_VND_OCF_CBOR`, which is no media type. -/
def caFormatApplicationVndOcfCbor : UInt16 := 9

def caFormatUnsupported : UInt16 := 10

/-- What `HandleSingleResponse` makes the options of: those of the handler, what the memory holds
behind them, and whether there is a payload. -/
structure OptionSource where
  observeResult : OCStackResult
  observationOption : UInt32
  sendVendorSpecificHeaderOptions : List CAHeaderOption
  behind : ℕ → CAHeaderOption
  payload : Bool
  resourceUri : CString

structure PayloadHeader where
  payloadVersion : UInt16
  payloadFormat : UInt16
  isPayloadVersionSet : Bool
  isPayloadFormatSet : Bool
  deriving DecidableEq

def dataWord (option : CAHeaderOption) : UInt16 :=
  ((option.optionData.getD 1 0).toUInt16 <<< 8) + (option.optionData.getD 0 0).toUInt16

def PayloadHeader.note (header : PayloadHeader) (option : CAHeaderOption) : PayloadHeader :=
  if option.optionID = ocfContentFormatVersion then
    { header with payloadVersion := dataWord option, isPayloadVersionSet := true }
  else if option.optionID = coapOptionContentFormat then
    if option.optionLength = 1 then
      { header with payloadFormat := (option.optionData.getD 0 0).toUInt16
                    isPayloadFormatSet := true }
    else if option.optionLength = 2 then
      { header with payloadFormat := dataWord option, isPayloadFormatSet := true }
    else { header with payloadFormat := caFormatUnsupported, isPayloadFormatSet := false }
  else header

def scanOptions (options : List CAHeaderOption) : PayloadHeader :=
  options.foldl PayloadHeader.note ⟨ocfVersion100, coapMediatypeApplicationVndOcfCbor, false, false⟩

section

variable (source : OptionSource)

def OptionSource.observeDue : Bool :=
  source.observeResult = .ok ∧ source.observationOption ≠ noObserveOption

def OptionSource.extra : ℕ :=
  source.observeDue.toNat + (decide (source.resourceUri.bytes ≠ [])).toNat

def OptionSource.header : PayloadHeader :=
  scanOptions (source.sendVendorSpecificHeaderOptions
    ++ (List.range source.extra).map source.behind)

variable (header : PayloadHeader)

/-- What the scan adds to `numOptions`. -/
def PayloadHeader.counted : ℕ :=
  if header.isPayloadVersionSet = false ∧ header.isPayloadFormatSet = false then 2
  else if (header.isPayloadFormatSet = true ∧ header.payloadFormat = caFormatApplicationVndOcfCbor
      ∧ header.isPayloadVersionSet = false)
      ∨ (header.isPayloadVersionSet = true ∧ header.isPayloadFormatSet = false) then 1
  else 0

def stackOption (optionID : ℕ) (optionData : List UInt8) : CAHeaderOption :=
  { protocolID := caCoapId, optionID := optionID, optionLength := optionData.length
    optionData := optionData
      ++ List.replicate (caMaxHeaderOptionDataLength - optionData.length) 0 }

/-- `memcpy` of a `uint16_t`, with the low byte first. -/
def wordOption (optionID : ℕ) (word : UInt16) : CAHeaderOption :=
  stackOption optionID [word.toUInt8, (word >>> 8).toUInt8]

def PayloadHeader.versionOption : CAHeaderOption :=
  wordOption ocfContentFormatVersion header.payloadVersion

def PayloadHeader.formatOption : CAHeaderOption :=
  wordOption coapOptionContentFormat header.payloadFormat

def PayloadHeader.filled : List CAHeaderOption :=
  if header.isPayloadVersionSet = false ∧ header.isPayloadFormatSet = false then
    [header.versionOption, header.formatOption]
  else if header.isPayloadFormatSet = true ∧ header.payloadFormat = caFormatApplicationVndOcfCbor
      ∧ header.isPayloadVersionSet = false then
    [header.versionOption]
  else if header.isPayloadVersionSet = true ∧ ocfVersion100 ≤ header.payloadVersion
      ∧ header.isPayloadFormatSet = false then
    [header.formatOption]
  else []

def OptionSource.leading : List CAHeaderOption :=
  (if source.observeDue then
      [stackOption coapOptionObserve.toNat (writeObservationOption 4 source.observationOption)]
    else [])
    ++ source.sendVendorSpecificHeaderOptions
    ++ (if source.resourceUri.bytes = [] then []
      else [stackOption caHeaderOptionIdLocationPath (source.resourceUri.bytes ++ [0])])

def OptionSource.numOptions : ℕ :=
  source.sendVendorSpecificHeaderOptions.length + source.extra
    + if source.payload then source.header.counted else 0

def OptionSource.written : List CAHeaderOption :=
  source.leading ++ if source.payload then source.header.filled else []

/-- The array handed to `CASendResponse`, its other entries as `OICCalloc` leaves them; nothing
where the location path is too long. -/
def handleSingleResponseOptions : Option (List CAHeaderOption) :=
  if source.resourceUri.bytes ≠ []
      ∧ caMaxHeaderOptionDataLength < source.resourceUri.bytes.length + 1 then none
  else some (source.written ++ List.replicate (source.numOptions - source.written.length) .zero)

end

section Filling

variable {source : OptionSource}

lemma length_leading (source : OptionSource) :
    source.leading.length = source.sendVendorSpecificHeaderOptions.length + source.extra := by
  rw [OptionSource.leading, OptionSource.extra]
  by_cases hdue : source.observeDue = true
  · by_cases huri : source.resourceUri.bytes = []
    · simp [hdue, huri]
    · simp [hdue, huri]
  by_cases huri : source.resourceUri.bytes = []
  · simp [hdue, huri]
  · simp [hdue, huri]

section

variable (header : PayloadHeader)

/-- A version older than 1.0.0 without a format is counted for and not filled. -/
def PayloadHeader.Unfilled : Prop :=
  header.isPayloadVersionSet = true ∧ header.isPayloadFormatSet = false
    ∧ header.payloadVersion < ocfVersion100

lemma PayloadHeader.length_filled :
    header.filled.length ≤ header.counted
      ∧ (¬ header.Unfilled → header.filled.length = header.counted) := by
  rw [filled, counted, Unfilled]
  cases header.isPayloadVersionSet with
  | false =>
    cases header.isPayloadFormatSet with
    | false => simp
    | true =>
      by_cases hformat : header.payloadFormat = caFormatApplicationVndOcfCbor
      · simp [hformat]
      · simp [hformat]
  | true =>
    cases header.isPayloadFormatSet with
    | true => simp
    | false =>
      by_cases hversion : ocfVersion100 ≤ header.payloadVersion
      · simp [hversion]
      · simp [hversion, UInt16.not_le.mp hversion]

lemma length_written (source : OptionSource) :
    source.written.length ≤ source.numOptions
      ∧ ((source.payload = true → ¬ source.header.Unfilled) →
          source.written.length = source.numOptions) := by
  have hfilled := source.header.length_filled
  rw [OptionSource.written, OptionSource.numOptions, length_append, length_leading]
  cases source.payload with
  | false => simp
  | true => simpa using hfilled

def tellsFormat (option : CAHeaderOption) : Prop :=
  option.optionID = ocfContentFormatVersion ∨ option.optionID = coapOptionContentFormat

lemma PayloadHeader.note_other {option : CAHeaderOption}
    (h : ¬ tellsFormat option) : header.note option = header := by
  obtain ⟨hversion, hformat⟩ := not_or.mp h
  rw [note, if_neg hversion, if_neg hformat]

lemma header_eq_scanOptions (h : ∀ i < source.extra, ¬ tellsFormat (source.behind i)) :
    source.header = scanOptions source.sendVendorSpecificHeaderOptions := by
  rw [OptionSource.header, scanOptions, foldl_append]
  refine List.foldlRecOn (motive := fun header => header = scanOptions _) _ _ rfl ?_
  intro header hheader option hoption
  obtain ⟨i, hi, rfl⟩ := mem_map.mp hoption
  rw [PayloadHeader.note_other header (h i (mem_range.mp hi)), hheader]

/-- What is added for the payload: a version and a format where the handler's options have none, the
format where they have a version alone. -/
def addedOptions (options : List CAHeaderOption) : List CAHeaderOption :=
  if (scanOptions options).isPayloadFormatSet then []
  else if (scanOptions options).isPayloadVersionSet then [(scanOptions options).formatOption]
  else [(scanOptions options).versionOption, (scanOptions options).formatOption]

/-- Where a format is set without a version, it is neither the media type of OCF nor the number
that it is compared with. -/
def PayloadHeader.OtherFormat : Prop :=
  header.isPayloadFormatSet = true → header.isPayloadVersionSet = false →
    header.payloadFormat ≠ coapMediatypeApplicationVndOcfCbor
      ∧ header.payloadFormat ≠ caFormatApplicationVndOcfCbor

end

lemma filled_eq_added {options : List CAHeaderOption}
    (hversion : ¬ (scanOptions options).Unfilled) (hformat : (scanOptions options).OtherFormat) :
    (scanOptions options).filled = addedOptions options := by
  rw [PayloadHeader.filled, addedOptions]
  rw [PayloadHeader.Unfilled] at hversion
  rw [PayloadHeader.OtherFormat] at hformat
  generalize scanOptions options = header at *
  cases hset : header.isPayloadFormatSet with
  | false =>
    cases hversionSet : header.isPayloadVersionSet with
    | false => simp
    | true =>
      have hnew : ocfVersion100 ≤ header.payloadVersion :=
        UInt16.not_lt.mp fun hold => hversion ⟨hversionSet, hset, hold⟩
      simp [hnew]
  | true =>
    cases hversionSet : header.isPayloadVersionSet with
    | false => simp [(hformat hset hversionSet).2]
    | true => simp

/-- No entry is written past the array. Where the entries that the scan reads behind the options
of the handler tell of no version or format, and these set neither an old version alone nor the
media type of OCF alone, the array is filled exactly: the observe option, the options of the
handler, the location path and what is added for the payload. -/
theorem handleSingleResponseOptions_exact (source : OptionSource) :
    source.written.length ≤ source.numOptions
      ∧ (caMaxHeaderOptionDataLength < source.resourceUri.bytes.length + 1 →
          handleSingleResponseOptions source = none)
      ∧ (source.resourceUri.bytes.length + 1 ≤ caMaxHeaderOptionDataLength →
          (source.payload = true → (∀ i < source.extra, ¬ tellsFormat (source.behind i))
            ∧ ¬ (scanOptions source.sendVendorSpecificHeaderOptions).Unfilled
            ∧ (scanOptions source.sendVendorSpecificHeaderOptions).OtherFormat) →
          source.written.length = source.numOptions
          ∧ handleSingleResponseOptions source = some (source.leading
            ++ if source.payload then addedOptions source.sendVendorSpecificHeaderOptions
              else [])) := by
  refine ⟨(length_written source).1, fun hlong => ?_, fun hfits h => ?_⟩
  · refine if_pos ⟨fun hnil => ?_, hlong⟩
    rw [hnil] at hlong
    exact absurd hlong (by decide)
  · have hfilled : source.payload = true →
        source.header.filled = addedOptions source.sendVendorSpecificHeaderOptions
          ∧ ¬ source.header.Unfilled := by
      intro hpayload
      obtain ⟨hbehind, hversion, hformat⟩ := h hpayload
      rw [header_eq_scanOptions hbehind]
      exact ⟨filled_eq_added hversion hformat, hversion⟩
    have hlength := (length_written source).2 fun hpayload => (hfilled hpayload).2
    refine ⟨hlength, ?_⟩
    rw [handleSingleResponseOptions, if_neg fun hlong => absurd hlong.2 (by omega), hlength,
      Nat.sub_self, replicate_zero, append_nil, OptionSource.written]
    cases hpayload : source.payload with
    | false => rfl
    | true => rw [(hfilled hpayload).1]

end Filling

def jsonSource : OptionSource :=
  { observeResult := .error, observationOption := noObserveOption
    sendVendorSpecificHeaderOptions := [wordOption coapOptionContentFormat 50]
    behind := fun _ => .zero, payload := true, resourceUri := ⟨[], by decide⟩ }

theorem jsonSource_exact :
    handleSingleResponseOptions jsonSource = some [wordOption coapOptionContentFormat 50] := by
  refine ((handleSingleResponseOptions_exact jsonSource).2.2 (by decide) fun _ => ?_).2
  exact ⟨fun i hi => absurd hi (Nat.not_lt_zero i), fun h => absurd h.1 (by decide),
    fun _ _ => ⟨by decide, by decide⟩⟩

theorem jsonSource_without_version :
    jsonSource.payload = true
      ∧ (scanOptions jsonSource.sendVendorSpecificHeaderOptions).isPayloadVersionSet = false
      ∧ (handleSingleResponseOptions jsonSource).map (List.map CAHeaderOption.optionID)
        = some [coapOptionContentFormat] := by
  decide

/-! ## The options of an application -/

def ocCoapId : ℕ := 2

def maxHeaderOptionDataLength : ℕ := 1024

/-- What `OCSetHeaderOption` is given: the id, and the `optionDataLength` bytes of the data. -/
structure SetOption where
  optionID : UInt16
  optionData : Option (List UInt8)

/-- `OCSetHeaderOption` on the entries in use. -/
def ocSetHeaderOption (options : List OCHeaderOption) (set : SetOption) :
    List OCHeaderOption × OCStackResult :=
  match set.optionData with
  | none => (options, .invalidParam)
  | some data =>
    if maxHeaderOptions ≤ options.length then (options, .noMemory)
    else (options ++ [⟨ocCoapId, set.optionID, data.take maxHeaderOptionDataLength⟩], .ok)

structure OptionRead where
  result : OCStackResult
  written : List UInt8
  receivedDataLength : Option ℕ

/-- `OCGetHeaderOption`; `optionDataLength` goes with a buffer, `received` says whether there is a
place for the length, which is compared with that of the first entry. -/
def ocGetHeaderOption (options : List OCHeaderOption) (optionID : UInt16)
    (optionDataLength : Option ℕ) (received : Bool) : OptionRead :=
  match options, optionDataLength, received with
  | [], _, _ => ⟨.ok, [], none⟩
  | _ :: _, none, _ | _ :: _, some _, false => ⟨.invalidParam, [], none⟩
  | first :: _, some optionDataLength, true =>
    match options.find? (·.optionID == optionID) with
    | none => ⟨.ok, [], none⟩
    | some option =>
      if first.optionData.length ≤ optionDataLength then
        ⟨.ok, option.optionData, some option.optionData.length⟩
      else ⟨.error, [], none⟩

def SetOption.entry (set : SetOption) : Option OCHeaderOption :=
  set.optionData.map fun data =>
    ⟨ocCoapId, set.optionID, data.take maxHeaderOptionDataLength⟩

def setAll (options : List OCHeaderOption) (sets : List SetOption) : List OCHeaderOption :=
  sets.foldl (fun options set => (ocSetHeaderOption options set).1) options

lemma set_eq (options : List OCHeaderOption) (set : SetOption) :
    (ocSetHeaderOption options set).1 =
      if options.length < maxHeaderOptions then options ++ set.entry.toList else options := by
  rw [ocSetHeaderOption, SetOption.entry]
  cases set.optionData with
  | none => simp
  | some data =>
    dsimp only [Option.map_some, Option.toList_some]
    split_ifs with h h' h'
    · omega
    · rfl
    · rfl
    · omega

lemma set_refused {options : List OCHeaderOption} {set : SetOption}
    (h : (ocSetHeaderOption options set).2 ≠ .ok) :
    (ocSetHeaderOption options set).1 = options := by
  rw [ocSetHeaderOption] at h ⊢
  split at h
  · rfl
  · split_ifs at h ⊢
    · rfl
    · exact absurd rfl h

lemma setAll_eq {options : List OCHeaderOption} (h : options.length ≤ maxHeaderOptions)
    (sets : List SetOption) :
    setAll options sets = (options ++ sets.filterMap SetOption.entry).take maxHeaderOptions := by
  induction sets generalizing options with
  | nil => rw [filterMap_nil, append_nil, take_of_length_le h]; rfl
  | cons set sets ih =>
    change setAll (ocSetHeaderOption options set).1 sets = _
    rw [set_eq, filterMap_cons]
    split_ifs with hlt
    · rw [ih]
      · cases set.entry <;> simp
      · cases set.entry with
        | none => simpa using h
        | some entry =>
          rw [Option.toList_some, length_append, length_singleton]
          omega
    · rw [ih h, take_append_of_le_length (by omega), take_append_of_le_length (by omega)]

/-- **An option is read back**, with its length, or refused where the buffer is too short. -/
def ReadBack (options : List OCHeaderOption) (optionID : UInt16) (optionDataLength : ℕ) : Prop :=
  let read := ocGetHeaderOption options optionID (some optionDataLength) true
  (∀ option, options.find? (·.optionID == optionID) = some option →
    if option.optionData.length ≤ optionDataLength then
      read = ⟨.ok, option.optionData, some option.optionData.length⟩
    else read.result ≠ .ok ∧ read.written = []) ∧
  read.written.length ≤ optionDataLength ∧
  (read.written ≠ [] → read.receivedDataLength = some read.written.length)

def LikeFirst (options : List OCHeaderOption) (optionID : UInt16) (optionDataLength : ℕ) : Prop :=
  ∀ option, options.find? (·.optionID == optionID) = some option →
    ∀ first, options.head? = some first →
      (first.optionData.length ≤ optionDataLength ↔ option.optionData.length ≤ optionDataLength)

lemma readBack_of_options (options : List OCHeaderOption) (optionID : UInt16) (n : ℕ) :
    ReadBack options optionID n ↔ LikeFirst options optionID n := by
  cases options with
  | nil => simp [ReadBack, LikeFirst, ocGetHeaderOption]
  | cons first rest =>
    simp only [ReadBack, LikeFirst, ocGetHeaderOption, head?_cons, Option.some.injEq]
    cases (first :: rest).find? (·.optionID == optionID) with
    | none => simp
    | some option =>
      simp only [Option.some.injEq, forall_eq']
      split_ifs with hfound hfirst hfirst <;> simp [hfound, hfirst]

/-- After any calls the entries are those of the first fifty with data. An option is read back if
the buffer is long enough for both it and the first one or for neither, and only then; a refused
call changes nothing. -/
theorem vendorOption_readBack_iff (sets : List SetOption) :
    setAll [] sets = (sets.filterMap SetOption.entry).take maxHeaderOptions ∧
      (∀ optionID n, ReadBack ((sets.filterMap SetOption.entry).take maxHeaderOptions) optionID n ↔
        LikeFirst ((sets.filterMap SetOption.entry).take maxHeaderOptions) optionID n) ∧
      ∀ options set, (ocSetHeaderOption options set).2 = .ok ∨
        (ocSetHeaderOption options set).1 = options :=
  ⟨setAll_eq (Nat.zero_le _) sets, readBack_of_options _, fun _ _ =>
    Decidable.or_iff_not_imp_left.2 set_refused⟩

theorem vendorOption_overrun :
    ¬ ∀ (sets : List SetOption) (optionID : UInt16) (n : ℕ),
      ReadBack (setAll [] sets) optionID n := by
  intro h
  have hread := (h [⟨1, some []⟩, ⟨2, some [7]⟩] 2 0).2.1
  exact absurd hread (by decide)

end Iochibity.Ocf
