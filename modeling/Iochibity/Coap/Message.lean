/-
The messages of the CoAP layer: `CAEndpoint_t`, `CAInfo_t`, `CARequestInfo_t`,
`CAResponseInfo_t`, `CAData_t`, and the parsed PDU that the receive path hands
to the block-wise transfer code.
-/
import Mathlib.Algebra.Order.Ring.Nat
import Mathlib.Data.UInt

namespace Iochibity.Coap

structure CString where
  bytes : List UInt8
  noNul : (0 : UInt8) ∉ bytes
  deriving DecidableEq

lemma CString.noNul_nil : (0 : UInt8) ∉ ([] : List UInt8) := List.not_mem_nil

def caMaxTokenLen : Nat := 8

/-- A token: `CAParsePDU` refuses a PDU whose token is longer than
`CA_MAX_TOKEN_LEN`, and `CAGenerateToken` makes none. -/
structure CAToken where
  bytes : List UInt8
  length_le : bytes.length ≤ caMaxTokenLen
  deriving DecidableEq

def CAToken.null : CAToken := ⟨[], by decide⟩

/-- `CAEndpoint_t`, as far as the transfer code looks at it. -/
structure CAEndpoint where
  adapter : UInt32
  addr : CString
  port : UInt16
  deriving DecidableEq

/-- The token of the single byte 1, and the address strings `"1"` and `"2"`: the
peers of the sample transfers. -/
def tokenOne : CAToken := ⟨[1], by decide⟩

def addrOne : CString := ⟨[0x31], by decide⟩

def addrTwo : CString := ⟨[0x32], by decide⟩

lemma addrOne_lt : addrOne.bytes.length < 66 := by decide

lemma addrTwo_lt : addrTwo.bytes.length < 66 := by decide

inductive CAMessageType
  | confirm
  | nonconfirm
  | acknowledge
  | reset
  deriving DecidableEq

/-- `CAResult_t`, the values the transfer code returns. -/
inductive CAResult
  | ok
  | failed
  | memoryAllocFailed
  | requestTimeout
  | notSupported
  deriving DecidableEq

/-- `CADataType_t`; a data set that was only zero-filled has none of them. -/
inductive CADataType
  | requestData
  | responseData
  | errorData
  | responseForRes
  | signalingData
  deriving DecidableEq

def caEmpty : Nat := 0
def caGet : Nat := 1
def caPost : Nat := 2
def caPut : Nat := 3
def caDelete : Nat := 4
def caContinue : Nat := 231
def caRequestEntityIncomplete : Nat := 408
def caRequestEntityTooLarge : Nat := 413

def isRequestCode (code : Nat) : Bool :=
  code == caGet || code == caPost || code == caPut || code == caDelete

/-- `CA_RESPONSE_CODE(C)`: the code byte `c.dd` as the decimal number `cdd`. -/
def caResponseCode (code : Nat) : Nat :=
  (code / 32) * 100 + (code - 32 * (code / 32))

/-- `COAP_RESPONSE_CODE(N)`: the decimal number `cdd` as the code byte `c.dd`. -/
def coapResponseCode (n : Nat) : Nat :=
  (n / 100) * 32 + n % 100

def isBlockErrorCode (code : Nat) : Bool :=
  caResponseCode code == caRequestEntityIncomplete
    || caResponseCode code == caRequestEntityTooLarge

structure CAInfo where
  type : CAMessageType
  messageId : Nat
  token : CAToken
  payload : List UInt8
  resourceUri : Option String
  deriving DecidableEq

def CAInfo.zero : CAInfo :=
  { type := .confirm, messageId := 0, token := CAToken.null, payload := [], resourceUri := none }

structure CARequestInfo where
  method : Nat
  info : CAInfo
  isMulticast : Bool
  deriving DecidableEq

structure CAResponseInfo where
  result : Nat
  info : CAInfo
  isMulticast : Bool
  deriving DecidableEq

/-- `CAData_t`: a request or a response with the endpoint it comes from or goes to. -/
structure CAData where
  remoteEndpoint : CAEndpoint
  requestInfo : Option CARequestInfo
  responseInfo : Option CAResponseInfo
  dataType : Option CADataType
  deriving DecidableEq

def caGetPayloadInfo (data : CAData) : List UInt8 :=
  match data.requestInfo with
  | some req => req.info.payload
  | none =>
    match data.responseInfo with
    | some res => res.info.payload
    | none => []

/-! ## Received PDUs -/

structure CoapBlock where
  num : Nat
  m : Bool
  szx : Nat
  deriving DecidableEq

def CoapBlock.zero : CoapBlock := ⟨0, false, 0⟩

/-- A parsed PDU: what `coap_get_block`, `coap_check_option` and `coap_get_data`
find in it, with the header fields. -/
structure CoapPdu where
  type : CAMessageType
  code : Nat
  id : Nat
  token : CAToken
  block1 : Option CoapBlock
  block2 : Option CoapBlock
  size1 : Option Nat
  size2 : Option Nat
  uri : Option String
  payload : List UInt8
  deriving DecidableEq

def caGetInfoFromPDU (pdu : CoapPdu) : CAInfo :=
  { type := pdu.type, messageId := pdu.id, token := pdu.token, payload := pdu.payload,
    resourceUri := pdu.uri }

/-- `CAGenerateHandlerData`, called by `mh_CAReceivedPacketCallback`: the data
set of a received PDU, a request or a response by its code. -/
def caGenerateHandlerData (endpoint : CAEndpoint) (pdu : CoapPdu) : CAData :=
  if isRequestCode pdu.code then
    { remoteEndpoint := endpoint
      requestInfo := some ⟨pdu.code, caGetInfoFromPDU pdu, false⟩
      responseInfo := none
      dataType := some .requestData }
  else
    { remoteEndpoint := endpoint
      requestInfo := none
      responseInfo := some ⟨caResponseCode pdu.code, caGetInfoFromPDU pdu, false⟩
      dataType := some .responseData }

@[simp] lemma caGetPayloadInfo_caGenerateHandlerData (endpoint : CAEndpoint) (pdu : CoapPdu) :
    caGetPayloadInfo (caGenerateHandlerData endpoint pdu) = pdu.payload := by
  unfold caGenerateHandlerData
  split <;> rfl

lemma isRequestCode_iff {code : Nat} :
    isRequestCode code = true ↔ 1 ≤ code ∧ code ≤ 4 := by
  simp only [isRequestCode, caGet, caPost, caPut, caDelete, Bool.or_eq_true, beq_iff_eq]
  omega

lemma isBlockErrorCode_of_request {code : Nat} (h : isRequestCode code = true) :
    isBlockErrorCode code = false := by
  rw [isRequestCode_iff] at h
  have hdiv : code / 32 = 0 := by omega
  simp only [isBlockErrorCode, caResponseCode, hdiv, caRequestEntityIncomplete,
    caRequestEntityTooLarge, Bool.or_eq_false_iff, beq_eq_false_iff_ne]
  omega

lemma code_of_success {code : Nat} (h : code / 32 = 2) :
    isRequestCode code = false ∧ isBlockErrorCode code = false := by
  constructor
  · rw [← Bool.not_eq_true, isRequestCode_iff]
    omega
  · simp only [isBlockErrorCode, caResponseCode, h, caRequestEntityIncomplete,
      caRequestEntityTooLarge, Bool.or_eq_false_iff, beq_eq_false_iff_ne]
    omega

lemma isRequestCode_caPost : isRequestCode caPost = true := rfl

lemma isRequestCode_content : isRequestCode 69 = false := (code_of_success rfl).1

lemma isBlockErrorCode_content : isBlockErrorCode 69 = false := (code_of_success rfl).2

end Iochibity.Coap
