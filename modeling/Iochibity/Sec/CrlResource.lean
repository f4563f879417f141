/-
The list of revoked certificates, `crlresource.c`.
-/
import Iochibity.Sec.PersistentStorage
import Iochibity.Util.Base64

namespace Iochibity.Sec.Crl

open CborFields (Field Answer Payload)
open UInt16 (ofInt)

/-- The data of a `ByteArray_t` or an `OicSecKey_t`. -/
inductive Buffer
  | null
  | holds (bytes : List UInt8)
  | freed
  deriving DecidableEq

structure OicSecCrl where
  crlId : UInt16
  thisUpdate : Buffer
  crlData : Buffer
  deriving DecidableEq

/-- `GetCrlDefault`. The texts are taken with the NUL behind them. -/
def getCrlDefault : OicSecCrl :=
  ⟨1, .holds [0x31, 0x35, 0x30, 0x31, 0x30, 0x31, 0x30, 0x30, 0x30, 0x30, 0x30, 0x30, 0x5A, 0],
    .holds [0x2D, 0]⟩

def copyByteArray (input : List UInt8) : Buffer → Option (Buffer × Bool)
  | .null => some (if input = [] then (.null, false) else (.holds input, true))
  | .holds _ => some (if input = [] then (.freed, false) else (.holds input, true))
  | .freed => none

/-- A part of `copyCrl`. -/
def copyBuffer (input out : Buffer) : Option (Buffer × Bool) :=
  match input with
  | .null => some (out, true)
  | .holds bytes => copyByteArray bytes out
  | .freed => none

/-- `copyCrl`: what is in `out` then, and whether it went well. -/
def copyCrl (input out : OicSecCrl) : Option (OicSecCrl × Bool) :=
  match copyBuffer input.thisUpdate out.thisUpdate with
  | none => none
  | some (thisUpdate, false) => some (⟨input.crlId, thisUpdate, out.crlData⟩, false)
  | some (thisUpdate, true) =>
    (copyBuffer input.crlData out.crlData).map fun copied =>
      (⟨input.crlId, thisUpdate, copied.1⟩, copied.2)

structure CrlBytes where
  write : List (String × Field) → List UInt8
  read : List UInt8 → Payload

/-- mbedTLS: `mbedtls_base64_encode`, and `mbedtls_base64_decode` where it does not fail. -/
structure Base64 where
  encode : List UInt8 → List UInt8
  decode : List UInt8 → Option (List UInt8)

section Codec

variable (bytes : CrlBytes) (base64 : Base64)

/-! ## Decoding -/

/-- `getCrlData`. A text of no bytes has no length to ask for. -/
def getCrlData : Answer → Option Buffer
  | .error => none
  | .text none => none
  | .text (some text) =>
    match base64.decode text with
    | none => none
    | some [] => none
    | some data => some (.holds data)
  | _ => some .null

/-- A number, in the bits of `CrlId`. -/
def getInt : Answer → UInt16
  | .int n => ofInt n
  | _ => 0

def getText : Answer → Buffer
  | .text (some text) => .holds text
  | _ => .null

/-- What `CBORPayloadToCrl` reads from the map, and whether it gets to the end. -/
def readCrl (find : String → Answer) : OicSecCrl × Bool :=
  let crlId := getInt (find "crlid")
  match find "thisupdate" with
  | .text none => (⟨crlId, .null, .null⟩, false)
  | answer =>
    match getCrlData base64 (find "crldata") with
    | none => (⟨crlId, getText answer, .null⟩, false)
    | some crlData => (⟨crlId, getText answer, crlData⟩, true)

def cborPayloadToCrl (gCrl : OicSecCrl) (cborPayload : List UInt8) : Option (Option OicSecCrl) :=
  if cborPayload = [] then some none
  else
    match bytes.read cborPayload with
    | .notMap => none
    | .map false _ => some none
    | .map true find =>
      match readCrl base64 find with
      | (crl, true) => some (some crl)
      -- "Set default values"
      | (crl, false) =>
        (copyCrl gCrl crl).map fun copied => if copied.2 then some copied.1 else none

def cborSize : ℕ := 1024

def textBytes (text : String) : List UInt8 := CborMap.keyBytes text

/-- The entries that `CrlToCBORPayload` writes. -/
def crlEntries (crlId : UInt16) (thisUpdate crlData lastUpdate : List UInt8) :
    List (String × Field) :=
  [("crlid", .int crlId.toNat), ("thisupdate", .text thisUpdate),
    ("crldata", .text (base64.encode crlData)),
    ("lu", .text lastUpdate),
    ("rt", .texts [textBytes "oic.r.crl"]),
    ("if", .texts [textBytes "oic.if.baseline"])]

def Buffer.contents : Buffer → Option (List UInt8)
  | .null => some []
  | .holds data => some data
  | .freed => none

/-- `CrlToCBORPayload`: the payload, if there is one. There is none for no bytes; what does not fit
is tried again with a payload that is not null any more, which is refused. -/
def crlToCBORPayload (crl : OicSecCrl) (lastUpdate : List UInt8) :
    Option (Option (List UInt8)) :=
  match crl.thisUpdate.contents, crl.crlData.contents with
  | some thisUpdate, some crlData =>
    let payload := bytes.write (crlEntries base64 crl.crlId thisUpdate crlData lastUpdate)
    if crlData = [] then some none
    else if payload.length ≤ cborSize then some (some payload)
    else some none
  | _, _ => none

/-! ## POST -/

/-- `gCrl`, the counter of `UpdateCRLResource`, and the security database. -/
structure CrlStore where
  gCrl : OicSecCrl
  crlid : UInt16
  database : List UInt8

structure CrlPost where
  payload : Option (List UInt8)
  currentTime : List UInt8
  medium : Medium

/-- The answers that `HandleCRLPostRequest` gives. -/
inductive CrlAnswer
  | changed
  | error
  deriving DecidableEq

def nextCrlId (crlid crlId : UInt16) : UInt16 × UInt16 :=
  if crlId = 0 then (crlid + 1, crlid + 1)
  else (if crlId > crlid then crlId else crlid, crlId)

variable (cbor : TinyCbor)

def updateCRLResource (post : CrlPost) (crl : OicSecCrl) (store : CrlStore) :
    Option (CrlAnswer × CrlStore) :=
  let (crlid, crlId) := nextCrlId store.crlid crl.crlId
  match copyCrl { crl with crlId := crlId } store.gCrl with
  | none => none
  | some (gCrl, false) => some (.error, ⟨gCrl, crlid, store.database⟩)
  | some (gCrl, true) =>
    match crlToCBORPayload bytes base64 gCrl post.currentTime with
    | none => none
    | some none => some (.error, ⟨gCrl, crlid, store.database⟩)
    | some (some payload) =>
      let updated := updateResourceInPS cbor post.medium store.database .crl payload
      some (if updated.result = .ok then .changed else .error, ⟨gCrl, crlid, updated.database⟩)

/-- `HandleCRLPostRequest`, where there is a list already. -/
def handleCRLPostRequest (post : CrlPost) (store : CrlStore) : Option (CrlAnswer × CrlStore) :=
  match post.payload with
  | none => some (.error, store)
  | some payload =>
    match cborPayloadToCrl bytes base64 store.gCrl payload with
    | none => none
    | some none => some (.error, store)
    | some (some crl) => updateCRLResource bytes base64 cbor post crl store

def crlStep (store : CrlStore) (post : CrlPost) : CrlStore × List CrlAnswer :=
  match handleCRLPostRequest bytes base64 cbor post store with
  | none => (store, [])
  | some (answer, store') => (store', [answer])

end Codec

open CborFields (Answer Payload)
open Option
open List

/-! ## What is promised -/

structure CrlContents where
  crlId : UInt16
  thisUpdate : List UInt8
  crlData : List UInt8
  deriving DecidableEq

def CrlContents.crl (contents : CrlContents) : OicSecCrl :=
  ⟨contents.crlId, .holds contents.thisUpdate, .holds contents.crlData⟩

structure Posted where
  crlId : Option ℤ
  thisUpdate : Option (List UInt8)
  crlData : Option (List UInt8)

/-- A number, or nothing where something else is; `none` where the payload is malformed. -/
def postedInt : Answer → Option (Option ℤ)
  | .error => none
  | .text none => none
  | .int n => some (some n)
  | _ => some none

def postedText : Answer → Option (Option (List UInt8))
  | .error => none
  | .text none => none
  | .text (some text) => some (some text)
  | _ => some none

section Promise

variable (bytes : CrlBytes) (base64 : Base64) (cbor : TinyCbor)

def postedData : Option (List UInt8) → Option (Option (List UInt8))
  | none => some none
  | some text => (base64.decode text).map some

def postedOf (find : String → Answer) : Option Posted :=
  (postedInt (find "crlid")).bind fun crlId =>
    (postedText (find "thisupdate")).bind fun thisUpdate =>
      (postedText (find "crldata")).bind fun text =>
        (postedData base64 text).map fun crlData => ⟨crlId, thisUpdate, crlData⟩

structure Follows (old : CrlContents) (posted : Posted) (new : CrlContents) : Prop where
  posted_crlId : ∀ n, posted.crlId = some n → (new.crlId.toNat : ℤ) = n
  absent_crlId : posted.crlId = none → new.crlId = old.crlId
  thisUpdate : new.thisUpdate = posted.thisUpdate.getD old.thisUpdate
  crlData : new.crlData = posted.crlData.getD old.crlData

def storedCrl (database : List UInt8) : Option OicSecCrl :=
  (readResource cbor database .crl).bind fun data =>
    match bytes.read data with
    | .map true find =>
      if (readCrl base64 find).2 = true then some (readCrl base64 find).1 else none
    | _ => none

structure Accepted (store : CrlStore) (post : CrlPost) (store' : CrlStore) : Prop where
  ok : ∃ payload find posted old new, post.payload = some payload
    ∧ bytes.read payload = .map true find ∧ postedOf base64 find = some posted
    ∧ store.gCrl = old.crl ∧ store'.gCrl = new.crl ∧ Follows old posted new
    ∧ storedCrl bytes base64 cbor store'.database = some new.crl

/-- **A POST is right**: it is answered, and with an error `gCrl` is as before. -/
def PostExact (store : CrlStore) (post : CrlPost) : Prop :=
  ∃ answer store', handleCRLPostRequest bytes base64 cbor post store = some (answer, store')
    ∧ (answer = .error → store'.gCrl = store.gCrl)
    ∧ (answer = .changed → Accepted bytes base64 cbor store post store')

/-! ## What does it -/

def Buffer.getD (buffer : Buffer) (dflt : List UInt8) : List UInt8 :=
  match buffer with
  | .holds data => data
  | _ => dflt

/-- The properties of `gCrl` after a POST. -/
def candidate (old : CrlContents) (crlid : UInt16) (find : String → Answer) : CrlContents :=
  if (readCrl base64 find).2 = true then
    ⟨(nextCrlId crlid (readCrl base64 find).1.crlId).2,
      (readCrl base64 find).1.thisUpdate.getD old.thisUpdate,
      (readCrl base64 find).1.crlData.getD old.crlData⟩
  else { old with crlId := (nextCrlId crlid old.crlId).2 }

def payloadOf (contents : CrlContents) (currentTime : List UInt8) : List UInt8 :=
  bytes.write (crlEntries base64 contents.crlId contents.thisUpdate contents.crlData currentTime)

def Keeps (medium : Medium) (database payload : List UInt8) : Prop :=
  payload.length ≤ cborSize
    ∧ (Skips cbor medium database ∨ medium.allocOk = true ∧ medium.write = .complete)

def IdStands (posted : Posted) (old : CrlContents) (crlid : UInt16) : Prop :=
  (∀ n, posted.crlId = some n → 0 < n ∧ n < 65536 ∨ n = 0 ∧ crlid = 65535)
    ∧ (posted.crlId = none → crlid + 1 = old.crlId)

structure MapClean (old : CrlContents) (store : CrlStore) (post : CrlPost)
    (find : String → Answer) : Prop where
  /-- `ThisUpdate` is no empty text, unless it is not used. -/
  thisUpdate : (readCrl base64 find).2 = true → (readCrl base64 find).1.thisUpdate ≠ .holds []
  /-- What is kept is well-formed, has data and an id, and is written. -/
  kept : Keeps cbor post.medium store.database
      (payloadOf bytes base64 (candidate base64 old store.crlid find) post.currentTime) →
    (∃ posted, postedOf base64 find = some posted ∧ posted.crlData ≠ some []
        ∧ IdStands posted old store.crlid)
      ∧ (Skips cbor post.medium store.database → storedCrl bytes base64 cbor store.database
          = some (candidate base64 old store.crlid find).crl)
  /-- What is not kept changes nothing. -/
  lost : ¬ Keeps cbor post.medium store.database
      (payloadOf bytes base64 (candidate base64 old store.crlid find) post.currentTime) →
    candidate base64 old store.crlid find = old

def PostClean (store : CrlStore) (post : CrlPost) : Prop :=
  ∀ old payload, store.gCrl = CrlContents.crl old → post.payload = some payload → payload ≠ [] →
    bytes.read payload ≠ .notMap
      ∧ ∀ find, bytes.read payload = .map true find → MapClean bytes base64 cbor old store post find

/-- tinycbor and mbedTLS are right: the keys of what is written are found, everything takes some
bytes, and what is encoded is decoded. -/
structure CrlBytes.Lawful (bytes : CrlBytes) (base64 : Base64) : Prop where
  write_ne_nil : ∀ entries, bytes.write entries ≠ []
  read_write : ∀ crlId thisUpdate crlData lastUpdate, ∃ find,
    bytes.read (bytes.write (crlEntries base64 crlId thisUpdate crlData lastUpdate))
        = .map true find
      ∧ find "crlid" = .int crlId.toNat
      ∧ find "thisupdate" = .text (some thisUpdate)
      ∧ find "crldata" = .text (some (base64.encode crlData))
  decode_encode : ∀ data, base64.decode (base64.encode data) = some data

end Promise

/-! ## Decoding -/

section Decoding

variable {base64 : Base64}

structure AsRead (crl : OicSecCrl) : Prop where
  thisUpdate : crl.thisUpdate = .null ∨ ∃ text, crl.thisUpdate = .holds text
  crlData : crl.crlData = .null ∨ ∃ data, crl.crlData = .holds data ∧ data ≠ []

lemma getCrlData_asRead {answer : Answer} {crlData : Buffer}
    (h : getCrlData base64 answer = some crlData) :
    crlData = .null ∨ ∃ data, crlData = .holds data ∧ data ≠ [] := by
  unfold getCrlData at h
  split at h
  · exact absurd h.symm (some_ne_none _)
  · exact absurd h.symm (some_ne_none _)
  · split at h
    · exact absurd h.symm (some_ne_none _)
    · exact absurd h.symm (some_ne_none _)
    · next data hne hdata =>
      exact .inr ⟨data, (some.inj h).symm, hne⟩
  · exact .inl (some.inj h).symm

lemma getText_asRead (answer : Answer) :
    getText answer = .null ∨ ∃ text, getText answer = .holds text := by
  unfold getText
  split
  · next text => exact .inr ⟨text, rfl⟩
  · exact .inl rfl

lemma readCrl_asRead (base64 : Base64) (find : String → Answer) :
    AsRead (readCrl base64 find).1 := by
  unfold readCrl
  dsimp only
  split
  · exact ⟨.inl rfl, .inl rfl⟩
  split
  · exact ⟨getText_asRead _, .inl rfl⟩
  · next crlData hdata => exact ⟨getText_asRead _, getCrlData_asRead hdata⟩

lemma copyCrl_asRead (crl : OicSecCrl) (h : AsRead crl) (old : CrlContents) :
    copyCrl crl old.crl = if crl.thisUpdate = .holds [] then
          some (⟨crl.crlId, .freed, .holds old.crlData⟩, false)
        else some ((⟨crl.crlId, crl.thisUpdate.getD old.thisUpdate,
          crl.crlData.getD old.crlData⟩ : CrlContents).crl, true) := by
  have hdata : copyBuffer crl.crlData (.holds old.crlData)
      = some (.holds (crl.crlData.getD old.crlData), true) := by
    rcases h.crlData with hnull | ⟨data, hholds, hne⟩
    · rw [hnull]
      rfl
    rw [hholds, copyBuffer, copyByteArray, if_neg hne]
    rfl
  have hupdate : copyBuffer crl.thisUpdate (.holds old.thisUpdate)
      = some (if crl.thisUpdate = .holds [] then (.freed, false)
        else (.holds (crl.thisUpdate.getD old.thisUpdate), true)) := by
    rcases h.thisUpdate with hnull | ⟨text, hholds⟩
    · rw [hnull, if_neg (fun heq => Buffer.noConfusion heq)]
      rfl
    rw [hholds, copyBuffer, copyByteArray]
    simp only [Buffer.holds.injEq]
    rfl
  rw [copyCrl]
  simp only [CrlContents.crl, hupdate, hdata]
  by_cases hempty : crl.thisUpdate = .holds []
  · simp [hempty]
  rw [if_neg hempty, if_neg hempty]
  rfl

variable {old : CrlContents}

lemma copyCrl_old (hupdate : old.thisUpdate ≠ []) (hdata : old.crlData ≠ []) {crl : OicSecCrl}
    (h : AsRead crl) : copyCrl old.crl crl = some (old.crl, true) := by
  have hcopy : ∀ (data : List UInt8) (out : Buffer), data ≠ [] →
      (out = .null ∨ ∃ there, out = .holds there) →
      copyBuffer (.holds data) out = some (.holds data, true) := by
    rintro data out hne (rfl | ⟨there, rfl⟩)
    · rw [copyBuffer, copyByteArray, if_neg hne]
    · rw [copyBuffer, copyByteArray, if_neg hne]
  have hthere : crl.crlData = .null ∨ ∃ there, crl.crlData = .holds there := by
    rcases h.crlData with hnull | ⟨data, hholds, -⟩
    · exact .inl hnull
    · exact .inr ⟨data, hholds⟩
  rw [copyCrl]
  dsimp only [CrlContents.crl]
  rw [hcopy _ _ hupdate h.thisUpdate]
  dsimp only
  rw [hcopy _ _ hdata hthere]
  rfl

def decodedOf (base64 : Base64) (old : CrlContents) (find : String → Answer) : OicSecCrl :=
  if (readCrl base64 find).2 = true then (readCrl base64 find).1 else old.crl

lemma cborPayloadToCrl_map {bytes : CrlBytes} (hupdate : old.thisUpdate ≠ [])
    (hdata : old.crlData ≠ []) {payload : List UInt8} (hne : payload ≠ []) {find : String → Answer}
    (hread : bytes.read payload = .map true find) :
    cborPayloadToCrl bytes base64 old.crl payload = some (some (decodedOf base64 old find)) := by
  have hasRead := readCrl_asRead base64 find
  rw [cborPayloadToCrl, if_neg hne, hread, decodedOf]
  dsimp only
  rcases hcrl : readCrl base64 find with ⟨crl, ok⟩
  rw [hcrl] at hasRead
  cases ok with
  | true => rfl
  | false =>
    dsimp only
    rw [copyCrl_old hupdate hdata hasRead]
    rfl

lemma decodedOf_asRead (base64 : Base64) (hdata : old.crlData ≠ [])
    (find : String → Answer) : AsRead (decodedOf base64 old find) := by
  rw [decodedOf]
  split_ifs
  · exact readCrl_asRead base64 find
  · exact ⟨.inr ⟨_, rfl⟩, .inr ⟨_, rfl, hdata⟩⟩

end Decoding

/-! ## One POST -/

structure CrlContents.Full (contents : CrlContents) : Prop where
  thisUpdate : contents.thisUpdate ≠ []
  crlData : contents.crlData ≠ []

section Steps

variable {bytes : CrlBytes} {base64 : Base64} {cbor : TinyCbor} {old : CrlContents}

lemma candidate_eq (crlid : UInt16) (find : String → Answer) :
    candidate base64 old crlid find
      = ⟨(nextCrlId crlid (decodedOf base64 old find).crlId).2,
        (decodedOf base64 old find).thisUpdate.getD old.thisUpdate,
        (decodedOf base64 old find).crlData.getD old.crlData⟩ := by
  rw [candidate, decodedOf]
  split_ifs
  · rfl
  · rfl

lemma candidate_crlData_ne (base64 : Base64) (hfull : old.Full) (crlid : UInt16)
    (find : String → Answer) : (candidate base64 old crlid find).crlData ≠ [] := by
  rw [candidate_eq]
  dsimp only
  have hasRead := decodedOf_asRead base64 hfull.crlData find
  rcases hasRead.crlData with hnull | ⟨data, hholds, hne⟩
  · rw [hnull]
    exact hfull.crlData
  rw [hholds]
  exact hne

lemma decodedOf_empty_iff (base64 : Base64) (hfull : old.Full) (find : String → Answer) :
    (decodedOf base64 old find).thisUpdate = .holds []
      ↔ (readCrl base64 find).2 = true ∧ (readCrl base64 find).1.thisUpdate = .holds [] := by
  rw [decodedOf]
  split_ifs with hok
  · exact (and_iff_right hok).symm
  · refine iff_of_false (fun heq => hfull.thisUpdate (Buffer.holds.inj heq)) ?_
    exact fun h => hok h.1

variable {find : String → Answer}

lemma candidate_full (hfull : old.Full) (crlid : UInt16)
    (h : (decodedOf base64 old find).thisUpdate ≠ .holds []) :
    (candidate base64 old crlid find).Full := by
  refine ⟨?_, candidate_crlData_ne base64 hfull crlid find⟩
  rw [candidate_eq]
  dsimp only
  have hasRead := decodedOf_asRead base64 hfull.crlData find
  rcases hasRead.thisUpdate with hnull | ⟨text, hholds⟩
  · rw [hnull]
    exact hfull.thisUpdate
  rw [hholds] at h ⊢
  exact fun hempty => h (congrArg Buffer.holds hempty)

variable {store : CrlStore} {post : CrlPost} {payload : List UInt8}

lemma handleCRLPostRequest_map (base64 : Base64) (cbor : TinyCbor) (hfull : old.Full)
    (hstore : store.gCrl = old.crl) (hpayload : post.payload = some payload) (hne : payload ≠ [])
    (hread : bytes.read payload = .map true find) :
    handleCRLPostRequest bytes base64 cbor post store
      = some (if (decodedOf base64 old find).thisUpdate = .holds [] then
          (.error, ⟨⟨(candidate base64 old store.crlid find).crlId, .freed, .holds old.crlData⟩,
            (nextCrlId store.crlid (decodedOf base64 old find).crlId).1, store.database⟩)
        else if (payloadOf bytes base64 (candidate base64 old store.crlid find)
            post.currentTime).length ≤ cborSize then
          (if (updateResourceInPS cbor post.medium store.database .crl
              (payloadOf bytes base64 (candidate base64 old store.crlid find)
                post.currentTime)).result = .ok then .changed else .error,
            ⟨(candidate base64 old store.crlid find).crl,
              (nextCrlId store.crlid (decodedOf base64 old find).crlId).1,
              (updateResourceInPS cbor post.medium store.database .crl
                (payloadOf bytes base64 (candidate base64 old store.crlid find)
                  post.currentTime)).database⟩)
        else (.error, ⟨(candidate base64 old store.crlid find).crl,
          (nextCrlId store.crlid (decodedOf base64 old find).crlId).1, store.database⟩)) := by
  have hasRead := decodedOf_asRead base64 hfull.crlData find
  have hdata := candidate_crlData_ne base64 hfull store.crlid find
  have hcopy := copyCrl_asRead ({ decodedOf base64 old find with
    crlId := (nextCrlId store.crlid (decodedOf base64 old find).crlId).2 })
    ⟨hasRead.thisUpdate, hasRead.crlData⟩ old
  have hid : (candidate base64 old store.crlid find).crlId
      = (nextCrlId store.crlid (decodedOf base64 old find).crlId).2 := by
    rw [candidate_eq]
  rw [handleCRLPostRequest, hpayload, hstore]
  dsimp only
  rw [cborPayloadToCrl_map hfull.thisUpdate hfull.crlData hne hread]
  dsimp only
  rw [updateCRLResource, hstore]
  dsimp only
  rw [hcopy]
  by_cases hempty : (decodedOf base64 old find).thisUpdate = .holds []
  · simp [hempty, hid]
  rw [if_neg hempty, if_neg hempty]
  dsimp only
  rw [← candidate_eq, crlToCBORPayload]
  dsimp only [CrlContents.crl, Buffer.contents]
  rw [if_neg hdata, payloadOf]
  by_cases hfits : (bytes.write (crlEntries base64 (candidate base64 old store.crlid find).crlId
      (candidate base64 old store.crlid find).thisUpdate
      (candidate base64 old store.crlid find).crlData post.currentTime)).length ≤ cborSize
  · simp [hfits]
  · simp [hfits]

lemma ofInt_toNat (n : ℤ) : ((ofInt n).toNat : ℤ) = n % 65536 := by
  rw [ofInt, UInt16.toNat_ofNat']
  omega

lemma nextCrlId_ofInt (crlid : UInt16) (n : ℤ) :
    ((nextCrlId crlid (ofInt n)).2.toNat : ℤ) = n
      ↔ 0 < n ∧ n < 65536 ∨ n = 0 ∧ crlid = 65535 := by
  have hmod := ofInt_toNat n
  have hcrlid := crlid.toNat_lt
  have hlast : crlid = 65535 ↔ crlid.toNat = 65535 := UInt16.toNat_inj.symm
  have hzero : ofInt n = 0 ↔ (ofInt n).toNat = 0 := UInt16.toNat_inj.symm
  rw [nextCrlId, hlast]
  by_cases hid : ofInt n = 0
  · have hsucc : (crlid + 1).toNat = (crlid.toNat + 1) % 65536 := UInt16.toNat_add crlid 1
    rw [if_pos hid]
    dsimp only
    rw [hsucc]
    have hn := hzero.mp hid
    omega
  rw [if_neg hid]
  dsimp only
  have hn : (ofInt n).toNat ≠ 0 := fun h => hid (hzero.mpr h)
  omega

lemma nextCrlId_zero (crlid : UInt16) : (nextCrlId crlid 0).2 = crlid + 1 := by
  rw [nextCrlId, if_pos rfl]

variable {answer : Answer}

lemma getInt_posted {crlId : Option ℤ} (h : postedInt answer = some crlId) :
    getInt answer = (crlId.map ofInt).getD 0 := by
  unfold postedInt at h
  split at h
  · exact absurd h.symm (some_ne_none _)
  · exact absurd h.symm (some_ne_none _)
  · rw [← some.inj h]
    rfl
  · next hint =>
    rw [← some.inj h, getInt]
    · rfl
    · exact hint

lemma getText_posted {text : Option (List UInt8)} (h : postedText answer = some text)
    (dflt : List UInt8) :
    (getText answer).getD dflt = text.getD dflt := by
  unfold postedText at h
  split at h
  · exact absurd h.symm (some_ne_none _)
  · exact absurd h.symm (some_ne_none _)
  · rw [← some.inj h]
    rfl
  · next htext =>
    rw [← some.inj h, getText]
    · rfl
    · exact htext

lemma getCrlData_posted {text crlData : Option (List UInt8)}
    (htext : postedText answer = some text) (h : postedData base64 text = some crlData) :
    (crlData = some [] → getCrlData base64 answer = none)
      ∧ (crlData ≠ some [] → ∃ buffer, getCrlData base64 answer = some buffer
        ∧ ∀ dflt, buffer.getD dflt = crlData.getD dflt) := by
  unfold postedText at htext
  split at htext
  · exact absurd htext.symm (some_ne_none _)
  · exact absurd htext.symm (some_ne_none _)
  · rw [← some.inj htext] at h
    obtain ⟨data, hdecode, rfl⟩ := map_eq_some_iff.mp h
    rw [getCrlData, hdecode]
    cases data with
    | nil => exact ⟨fun _ => rfl, fun hne => absurd rfl hne⟩
    | cons b data =>
      exact ⟨fun hnil => absurd (some.inj hnil) (cons_ne_nil b data),
        fun _ => ⟨_, rfl, fun _ => rfl⟩⟩
  · next herror hnone hsome =>
    rw [← some.inj htext] at h
    rw [← some.inj h]
    refine ⟨fun hsome => absurd hsome.symm (some_ne_none _), fun _ => ⟨.null, ?_, ?_⟩⟩
    · cases answer with
      | error => exact absurd rfl herror
      | text text =>
        cases text with
        | none => exact absurd rfl hnone
        | some text => exact absurd rfl (hsome text)
      | absent => rfl
      | int n => rfl
      | other => rfl
    · exact fun _ => rfl

lemma readCrl_of_null (hne : find "thisupdate" ≠ .text none)
    (hdata : getCrlData base64 (find "crldata") = none) :
    readCrl base64 find = (⟨getInt (find "crlid"), getText (find "thisupdate"), .null⟩, false) := by
  rw [readCrl]
  split
  · next heq => exact absurd heq hne
  · rw [hdata]

lemma readCrl_of_data (hne : find "thisupdate" ≠ .text none) {crlData : Buffer}
    (hdata : getCrlData base64 (find "crldata") = some crlData) :
    readCrl base64 find
      = (⟨getInt (find "crlid"), getText (find "thisupdate"), crlData⟩, true) := by
  rw [readCrl]
  split
  · next heq => exact absurd heq hne
  · rw [hdata]

lemma readCrl_posted {posted : Posted} (h : postedOf base64 find = some posted) :
    (posted.crlData = some [] → (readCrl base64 find).2 = false)
      ∧ (posted.crlData ≠ some [] → (readCrl base64 find).2 = true
        ∧ (readCrl base64 find).1.crlId = (posted.crlId.map ofInt).getD 0
        ∧ (∀ dflt, (readCrl base64 find).1.thisUpdate.getD dflt = posted.thisUpdate.getD dflt)
        ∧ ∀ dflt, (readCrl base64 find).1.crlData.getD dflt = posted.crlData.getD dflt) := by
  obtain ⟨crlId, hid, h⟩ := bind_eq_some_iff.mp h
  obtain ⟨thisUpdate, hupdate, h⟩ := bind_eq_some_iff.mp h
  obtain ⟨text, htext, h⟩ := bind_eq_some_iff.mp h
  obtain ⟨crlData, hcrlData, rfl⟩ := map_eq_some_iff.mp h
  have hint := getInt_posted hid
  have hgetText := getText_posted hupdate
  obtain ⟨hempty, hsome⟩ := getCrlData_posted htext hcrlData
  have hne : find "thisupdate" ≠ .text none := by
    intro heq
    rw [heq] at hupdate
    exact absurd hupdate.symm (some_ne_none _)
  constructor
  · intro hnil
    rw [readCrl_of_null hne (hempty hnil)]
  · intro hnonempty
    obtain ⟨buffer, hbuffer, hgetD⟩ := hsome hnonempty
    rw [readCrl_of_data hne hbuffer]
    exact ⟨rfl, hint, hgetText, hgetD⟩

lemma follows_iff (hfull : old.Full) (crlid : UInt16) {posted : Posted}
    (h : postedOf base64 find = some posted) :
    Follows old posted (candidate base64 old crlid find)
      ↔ posted.crlData ≠ some [] ∧ IdStands posted old crlid := by
  obtain ⟨hempty, hsome⟩ := readCrl_posted h
  by_cases hdata : posted.crlData = some []
  · refine iff_of_false (fun hfollows => ?_) (·.1 hdata)
    have hcrlData := hfollows.crlData
    rw [candidate, if_neg (by rw [hempty hdata]; exact Bool.false_ne_true), hdata] at hcrlData
    exact hfull.crlData hcrlData
  obtain ⟨hok, hid, hupdate, hcrlData⟩ := hsome hdata
  have hcandidate : (candidate base64 old crlid find).crlId
      = (nextCrlId crlid ((posted.crlId.map ofInt).getD 0)).2 := by
    rw [candidate, if_pos hok, hid]
  rw [and_iff_right hdata, IdStands]
  constructor
  · intro hfollows
    constructor
    · intro n hn
      have hposted := hfollows.posted_crlId n hn
      rw [hcandidate, hn] at hposted
      exact (nextCrlId_ofInt crlid n).mp hposted
    · intro hnone
      have habsent := hfollows.absent_crlId hnone
      rw [hcandidate, hnone] at habsent
      exact (nextCrlId_zero crlid).symm.trans habsent
  · rintro ⟨hposted, habsent⟩
    refine ⟨?_, ?_, ?_, ?_⟩
    · intro n hn
      rw [hcandidate, hn]
      exact (nextCrlId_ofInt crlid n).mpr (hposted n hn)
    · intro hnone
      rw [hcandidate, hnone]
      exact (nextCrlId_zero crlid).trans (habsent hnone)
    · rw [candidate, if_pos hok]
      exact hupdate old.thisUpdate
    · rw [candidate, if_pos hok]
      exact hcrlData old.crlData

lemma storedCrl_of_read (hbytes : bytes.Lawful base64) {contents : CrlContents}
    (hfull : contents.Full) (currentTime : List UInt8) {database : List UInt8}
    (h : readResource cbor database .crl = some (payloadOf bytes base64 contents currentTime)) :
    storedCrl bytes base64 cbor database = some contents.crl := by
  obtain ⟨find, hread, hid, hupdate, hdata⟩ := hbytes.read_write contents.crlId
    contents.thisUpdate contents.crlData currentTime
  have hcrlData : getCrlData base64 (.text (some (base64.encode contents.crlData)))
      = some (.holds contents.crlData) := by
    rw [getCrlData, hbytes.decode_encode]
    split
    · next hnone => exact absurd hnone (some_ne_none _)
    · next hnil => exact absurd (some.inj hnil) hfull.crlData
    · next data _ heq => rw [some.inj heq]
  have hint : ofInt (contents.crlId.toNat : ℤ) = contents.crlId := by
    have hmod := ofInt_toNat (contents.crlId.toNat : ℤ)
    have hlt := contents.crlId.toNat_lt
    apply UInt16.toNat_inj.mp
    omega
  have hcrl : readCrl base64 find = (contents.crl, true) := by
    rw [readCrl, hid, hupdate, hdata]
    dsimp only
    rw [hcrlData, getInt, hint, getText]
    rfl
  rw [storedCrl, h, bind_some, payloadOf, hread]
  dsimp only
  simp [hcrl]

lemma crl_injective : Function.Injective CrlContents.crl := by
  intro contents contents' h
  obtain ⟨hid, hupdate, hdata⟩ := OicSecCrl.mk.inj h
  have hupdate := Buffer.holds.inj hupdate
  have hdata := Buffer.holds.inj hdata
  obtain ⟨crlId, thisUpdate, crlData⟩ := contents
  dsimp only at hid hupdate hdata
  rw [hid, hupdate, hdata]

lemma handleCRLPostRequest_none (hpayload : post.payload = none) :
    handleCRLPostRequest bytes base64 cbor post store = some (.error, store) := by
  rw [handleCRLPostRequest, hpayload]

lemma handleCRLPostRequest_nil (hpayload : post.payload = some []) :
    handleCRLPostRequest bytes base64 cbor post store = some (.error, store) := by
  rw [handleCRLPostRequest, hpayload]
  dsimp only
  rw [cborPayloadToCrl, if_pos rfl]

lemma handleCRLPostRequest_notMap (hpayload : post.payload = some payload) (hne : payload ≠ [])
    (hread : bytes.read payload = .notMap) :
    handleCRLPostRequest bytes base64 cbor post store = none := by
  rw [handleCRLPostRequest, hpayload]
  dsimp only
  rw [cborPayloadToCrl, if_neg hne, hread]

lemma handleCRLPostRequest_closed (hpayload : post.payload = some payload) (hne : payload ≠ [])
    (hread : bytes.read payload = .map false find) :
    handleCRLPostRequest bytes base64 cbor post store = some (.error, store) := by
  rw [handleCRLPostRequest, hpayload]
  dsimp only
  rw [cborPayloadToCrl, if_neg hne, hread]

lemma postExact_error_iff {store' : CrlStore}
    (h : handleCRLPostRequest bytes base64 cbor post store = some (.error, store')) :
    PostExact bytes base64 cbor store post ↔ store'.gCrl = store.gCrl := by
  constructor
  · rintro ⟨answer, store'', hresult, herror, -⟩
    obtain ⟨rfl, rfl⟩ := Prod.mk.inj (some.inj (h.symm.trans hresult))
    exact herror rfl
  · exact fun hsame => ⟨_, _, h, fun _ => hsame, fun hchanged => CrlAnswer.noConfusion hchanged⟩

lemma postExact_changed_iff {store' : CrlStore} (hstore : store.gCrl = old.crl)
    (hpayload : post.payload = some payload) (hread : bytes.read payload = .map true find)
    {new : CrlContents} (hnew : store'.gCrl = new.crl)
    (h : handleCRLPostRequest bytes base64 cbor post store = some (.changed, store')) :
    PostExact bytes base64 cbor store post
      ↔ (∃ posted, postedOf base64 find = some posted ∧ Follows old posted new)
        ∧ storedCrl bytes base64 cbor store'.database = some new.crl := by
  constructor
  · rintro ⟨answer, store'', hresult, -, hchanged⟩
    obtain ⟨rfl, rfl⟩ := Prod.mk.inj (some.inj (h.symm.trans hresult))
    obtain ⟨payload', find', posted, old', new', hpayload', hread', hposted, hold, hnew', hfollows,
      hstored⟩ := (hchanged rfl).ok
    obtain rfl := some.inj (hpayload.symm.trans hpayload')
    obtain rfl := (Payload.map.inj (hread.symm.trans hread')).2
    obtain rfl := crl_injective (hstore.symm.trans hold)
    obtain rfl := crl_injective (hnew.symm.trans hnew')
    exact ⟨⟨posted, hposted, hfollows⟩, hstored⟩
  · rintro ⟨⟨posted, hposted, hfollows⟩, hstored⟩
    refine ⟨_, _, h, fun herror => CrlAnswer.noConfusion herror, fun _ => ⟨?_⟩⟩
    exact ⟨payload, find, posted, old, new, hpayload, hread, hposted, hstore, hnew, hfollows,
      hstored⟩

section

variable (hcbor : cbor.Lawful) (hbytes : bytes.Lawful base64) (hfull : old.Full)
  (hstore : store.gCrl = old.crl)
include hbytes hcbor hfull hstore

lemma postExact_map_iff (hpayload : post.payload = some payload) (hne : payload ≠ [])
    (hread : bytes.read payload = .map true find) :
    PostExact bytes base64 cbor store post ↔ MapClean bytes base64 cbor old store post find := by
  have hhandle := handleCRLPostRequest_map base64 cbor hfull hstore hpayload hne hread
  have hempty := decodedOf_empty_iff base64 hfull find
  have hfollows : ∀ posted, postedOf base64 find = some posted →
      (Follows old posted (candidate base64 old store.crlid find)
        ↔ posted.crlData ≠ some [] ∧ IdStands posted old store.crlid) :=
    fun posted hposted => follows_iff hfull store.crlid hposted
  generalize hcandidate : candidate base64 old store.crlid find = new at hhandle hfollows
  have hpayloadNe : payloadOf bytes base64 new post.currentTime ≠ [] := hbytes.write_ne_nil _
  have hupdate := updateResourceInPS_told hcbor post.medium store.database .crl hpayloadNe
  by_cases hnil : (decodedOf base64 old find).thisUpdate = .holds []
  · -- the text that was there is released, and nothing is in its place
    rw [if_pos hnil] at hhandle
    rw [postExact_error_iff hhandle, hstore]
    refine iff_of_false (fun heq => ?_) (fun hclean => ?_)
    · exact Buffer.noConfusion (OicSecCrl.mk.inj heq).2.1
    · exact hclean.thisUpdate (hempty.mp hnil).1 (hempty.mp hnil).2
  rw [if_neg hnil] at hhandle
  have hupdateNe : (readCrl base64 find).2 = true →
      (readCrl base64 find).1.thisUpdate ≠ .holds [] :=
    fun hok hread => hnil (hempty.mpr ⟨hok, hread⟩)
  have hlost : ∀ store', store'.gCrl = new.crl →
      handleCRLPostRequest bytes base64 cbor post store = some (.error, store') →
      ¬ Keeps cbor post.medium store.database (payloadOf bytes base64 new post.currentTime) →
      (PostExact bytes base64 cbor store post
        ↔ MapClean bytes base64 cbor old store post find) := by
    intro store' hnew herror hkeeps
    rw [postExact_error_iff herror, hnew, hstore, crl_injective.eq_iff]
    constructor
    · intro hsame
      refine ⟨hupdateNe, ?_, fun _ => hcandidate.trans hsame⟩
      rw [hcandidate]
      exact fun hyes => absurd hyes hkeeps
    · intro hclean
      have hsame := hclean.lost
      rw [hcandidate] at hsame
      exact hsame hkeeps
  have hkept : ∀ store', store'.gCrl = new.crl →
      handleCRLPostRequest bytes base64 cbor post store = some (.changed, store') →
      Keeps cbor post.medium store.database (payloadOf bytes base64 new post.currentTime) →
      (storedCrl bytes base64 cbor store'.database = some new.crl
        ↔ (Skips cbor post.medium store.database →
          storedCrl bytes base64 cbor store.database = some new.crl)) →
      (PostExact bytes base64 cbor store post
        ↔ MapClean bytes base64 cbor old store post find) := by
    intro store' hnew hchanged hkeeps hstored
    have hiff : (∃ posted, postedOf base64 find = some posted ∧ Follows old posted new)
        ↔ ∃ posted, postedOf base64 find = some posted ∧ posted.crlData ≠ some []
          ∧ IdStands posted old store.crlid :=
      exists_congr (fun posted => and_congr_right (hfollows posted))
    rw [postExact_changed_iff hstore hpayload hread hnew hchanged, hstored, hiff]
    constructor
    · intro hright
      refine ⟨hupdateNe, ?_, ?_⟩
      · rw [hcandidate]
        exact fun _ => hright
      · rw [hcandidate]
        exact fun hno => absurd hkeeps hno
    · intro hclean
      have hright := hclean.kept
      rw [hcandidate] at hright
      exact hright hkeeps
  by_cases hfits : (payloadOf bytes base64 new post.currentTime).length ≤ cborSize
  · rw [if_pos hfits] at hhandle
    obtain ⟨hskips, hcall⟩ | ⟨hwritten, halloc, hcomplete, hok, hthere⟩ | ⟨hno, herror⟩ := hupdate
    · rw [hcall, if_pos rfl] at hhandle
      exact hkept _ rfl hhandle ⟨hfits, .inl hskips⟩ ⟨fun h _ => h, fun h => h hskips⟩
    · rw [if_pos hok] at hhandle
      refine hkept _ rfl hhandle ⟨hfits, .inr ⟨halloc, hcomplete⟩⟩ ?_
      have hnewFull : new.Full := hcandidate ▸ candidate_full hfull store.crlid hnil
      exact iff_of_true (storedCrl_of_read hbytes hnewFull post.currentTime hthere)
        (absurd · hwritten)
    · rw [if_neg herror] at hhandle
      exact hlost _ rfl hhandle (hno ·.2)
  rw [if_neg hfits] at hhandle
  exact hlost _ rfl hhandle (hfits ·.1)

lemma postExact_iff_clean (post : CrlPost) :
    PostExact bytes base64 cbor store post ↔ PostClean bytes base64 cbor store post := by
  have hrefused : handleCRLPostRequest bytes base64 cbor post store = some (.error, store) →
      PostExact bytes base64 cbor store post :=
    fun h => (postExact_error_iff h).mpr rfl
  cases hpayload : post.payload with
  | none =>
    refine iff_of_true (hrefused (handleCRLPostRequest_none hpayload)) ?_
    intro old' payload _ hsome
    exact absurd (hpayload.symm.trans hsome).symm (some_ne_none payload)
  | some payload =>
    have honly : ∀ payload', post.payload = some payload' → payload' = payload :=
      fun payload' h => (some.inj (hpayload.symm.trans h)).symm
    by_cases hne : payload = []
    · refine iff_of_true (hrefused (handleCRLPostRequest_nil (hne ▸ hpayload))) ?_
      intro old' payload' _ hsome hne'
      exact absurd ((honly payload' hsome).trans hne) hne'
    cases hread : bytes.read payload with
    | notMap =>
      refine iff_of_false ?_ ?_
      · rintro ⟨answer, store', hresult, -⟩
        rw [handleCRLPostRequest_notMap hpayload hne hread] at hresult
        exact absurd hresult.symm (some_ne_none _)
      · exact fun hclean => (hclean old payload hstore hpayload hne).1 hread
    | map enters find =>
      cases enters with
      | false =>
        refine iff_of_true (hrefused (handleCRLPostRequest_closed hpayload hne hread)) ?_
        intro old' payload' _ hsome _
        rw [honly payload' hsome, hread]
        refine ⟨fun heq => Payload.noConfusion heq, fun find' heq => ?_⟩
        exact absurd (Payload.map.inj heq).1 Bool.false_ne_true
      | true =>
        rw [postExact_map_iff hcbor hbytes hfull hstore hpayload hne hread]
        constructor
        · intro hclean old' payload' hold' hsome _
          rw [honly payload' hsome, hread]
          refine ⟨fun heq => Payload.noConfusion heq, fun find' heq => ?_⟩
          rw [← (Payload.map.inj heq).2, ← crl_injective (hstore.symm.trans hold')]
          exact hclean
        · intro hclean
          exact (hclean old payload hstore hpayload hne).2 find hread

end

lemma crlStep_full (hfull : old.Full) (hstore : store.gCrl = old.crl)
    (hclean : PostClean bytes base64 cbor store post) :
    ∃ new : CrlContents, new.Full ∧ (crlStep bytes base64 cbor store post).1.gCrl = new.crl := by
  have hrefused : handleCRLPostRequest bytes base64 cbor post store = some (.error, store) →
      ∃ new : CrlContents, new.Full ∧ (crlStep bytes base64 cbor store post).1.gCrl = new.crl := by
    intro hresult
    refine ⟨old, hfull, ?_⟩
    rw [crlStep, hresult]
    exact hstore
  cases hpayload : post.payload with
  | none => exact hrefused (handleCRLPostRequest_none hpayload)
  | some payload =>
    by_cases hne : payload = []
    · exact hrefused (handleCRLPostRequest_nil (hne ▸ hpayload))
    cases hread : bytes.read payload with
    | notMap => exact absurd hread (hclean old payload hstore hpayload hne).1
    | map enters find =>
      cases enters with
      | false => exact hrefused (handleCRLPostRequest_closed hpayload hne hread)
      | true =>
        have hmap := (hclean old payload hstore hpayload hne).2 find hread
        have hnil : (decodedOf base64 old find).thisUpdate ≠ .holds [] := by
          intro heq
          obtain ⟨hok, hempty⟩ := (decodedOf_empty_iff base64 hfull find).mp heq
          exact hmap.thisUpdate hok hempty
        refine ⟨_, candidate_full hfull store.crlid hnil, ?_⟩
        rw [crlStep, handleCRLPostRequest_map base64 cbor hfull hstore hpayload hne hread,
          if_neg hnil]
        -- it is in the memory whatever becomes of the storage
        split_ifs
        · rfl
        · rfl
        · rfl

end Steps

def defaultContents : CrlContents :=
  ⟨1, [0x31, 0x35, 0x30, 0x31, 0x30, 0x31, 0x30, 0x30, 0x30, 0x30, 0x30, 0x30, 0x5A, 0], [0x2D, 0]⟩

/-- **The POSTs of a run are right** exactly when none does harm. -/
theorem crlPosts_exact_iff {bytes : CrlBytes} {base64 : Base64} {cbor : TinyCbor}
    (hcbor : cbor.Lawful) (hbytes : bytes.Lawful base64) (database : List UInt8)
    (posts : List CrlPost) :
    Runs.Along (crlStep bytes base64 cbor) (PostExact bytes base64 cbor)
        ⟨getCrlDefault, 0, database⟩ posts
      ↔ Runs.Along (crlStep bytes base64 cbor) (PostClean bytes base64 cbor)
        ⟨getCrlDefault, 0, database⟩ posts := by
  refine Runs.along_iff (fun store => ∃ old : CrlContents, old.Full ∧ store.gCrl = old.crl) ?_ ?_
    (Runs.along_true _ posts)
  · rintro store post ⟨old, hfull, hstore⟩ -
    exact ⟨postExact_iff_clean hcbor hbytes hfull hstore post, crlStep_full hfull hstore⟩
  · exact ⟨defaultContents, ⟨cons_ne_nil _ _, cons_ne_nil _ _⟩, rfl⟩

/-! ## A list that is posted -/

def CrlBytes.standard : CrlBytes := ⟨CborFields.writeMap, CborFields.read⟩

def Base64.standard : Base64 where
  encode := Util.encodeText
  decode := fun text =>
    if Util.isValidB64EncodedString text = .ok then some (Util.decodeText text) else none

lemma CrlBytes.standard_lawful : CrlBytes.standard.Lawful Base64.standard where
  write_ne_nil := CborFields.writeMap_ne_nil
  read_write := by
    intro crlId thisUpdate crlData lastUpdate
    refine ⟨_, CborFields.read_writeMap _, ?_, ?_, ?_⟩
    · exact CborFields.find_entries [] (forall_mem_nil _) _ _
    · refine CborFields.find_entries [("crlid", .int crlId.toNat)] ?_ (.text thisUpdate) _
      rw [forall_mem_singleton]
      exact ⟨show "crlid" ≠ "thisupdate" by decide, trivial⟩
    · refine CborFields.find_entries [("crlid", .int crlId.toNat),
        ("thisupdate", .text thisUpdate)] ?_ (.text (Base64.standard.encode crlData)) _
      rw [forall_mem_cons, forall_mem_singleton]
      exact ⟨⟨show "crlid" ≠ "crldata" by decide, trivial⟩,
        show "thisupdate" ≠ "crldata" by decide, trivial⟩
  decode_encode := fun data =>
    (if_pos (Util.isValid_encodeText data)).trans (congrArg some (Util.decodeText_encodeText data))

def oneByteList (crldata : List UInt8) : List UInt8 :=
  CborFields.writeMap [("crlid", .int 2), ("thisupdate", .text [0x41]), ("crldata", .text crldata)]

def listPost (crldata : List UInt8) (write : WriteOutcome) : CrlPost :=
  ⟨some (oneByteList crldata), [], ⟨true, true, [], write⟩⟩

def newDevice : CrlStore := ⟨getCrlDefault, 0, []⟩

def oneByteText : List UInt8 := [0x41, 0x51, 0x3D, 0x3D]

theorem failedStore_changes :
    ¬ Runs.Along (crlStep CrlBytes.standard Base64.standard TinyCbor.standard)
        (PostExact CrlBytes.standard Base64.standard TinyCbor.standard) newDevice
        [listPost oneByteText (.short 0)]
      ∧ ¬ Runs.Along (crlStep CrlBytes.standard Base64.standard TinyCbor.standard)
        (PostExact CrlBytes.standard Base64.standard TinyCbor.standard) newDevice
        [listPost [0x2D] .complete] := by
  constructor
  · rintro ⟨hexact, -⟩
    have hhandle : handleCRLPostRequest CrlBytes.standard Base64.standard TinyCbor.standard
        (listPost oneByteText (.short 0)) newDevice
        = some (.error, ⟨⟨2, .holds [0x41], .holds [1]⟩, 2, []⟩) := rfl
    have hsame := (postExact_error_iff hhandle).mp hexact
    exact absurd hsame (by decide)
  · rintro ⟨⟨answer, store', hresult, -, hchanged⟩, -⟩
    have hanswer : (handleCRLPostRequest CrlBytes.standard Base64.standard TinyCbor.standard
        (listPost [0x2D] .complete) newDevice).map Prod.fst = some .changed := rfl
    rw [hresult] at hanswer
    obtain ⟨payload, find, posted, old, new, hpayload, hread, hposted, -⟩ :=
      (hchanged (some.inj hanswer)).ok
    rw [← some.inj hpayload] at hread
    obtain rfl := (Payload.map.inj hread).2
    exact absurd hposted.symm (some_ne_none posted)

def oneByteContents : CrlContents := ⟨2, [0x41], [1]⟩

theorem oneByteList_stored :
    Runs.Along (crlStep CrlBytes.standard Base64.standard TinyCbor.standard)
      (PostExact CrlBytes.standard Base64.standard TinyCbor.standard) newDevice
      [listPost oneByteText .complete] := by
  refine (crlPosts_exact_iff TinyCbor.standard_lawful CrlBytes.standard_lawful []
    [listPost oneByteText .complete]).mpr ⟨?_, trivial⟩
  intro old payload hold hpayload _
  obtain rfl := some.inj hpayload
  obtain rfl := crl_injective (show defaultContents.crl = old.crl from hold)
  refine ⟨fun heq => Payload.noConfusion heq, fun find hread => ?_⟩
  obtain rfl := (Payload.map.inj hread).2
  refine ⟨fun _ heq => ?_, fun _ => ⟨⟨⟨some 2, some [0x41], some [1]⟩, rfl, ?_, ?_⟩, ?_⟩, ?_⟩
  · exact absurd (Buffer.holds.inj heq) (cons_ne_nil _ _)
  · exact show some [(1 : UInt8)] ≠ some [] by decide
  · refine ⟨fun n hn => ?_, fun hnone => absurd hnone.symm (some_ne_none _).symm⟩
    rw [← some.inj hn]
    decide
  · exact fun hskips => absurd rfl hskips.1
  · refine fun hno => absurd ⟨?_, .inr ⟨rfl, rfl⟩⟩ hno
    show (payloadOf CrlBytes.standard Base64.standard oneByteContents []).length ≤ cborSize
    decide

end Iochibity.Sec.Crl
