/-
Receiving CoAP over TCP: `CAConstructCoAP` of `tcp_session.c` and the loop of
`CATCPPacketReceivedCB` in `tcp_data_receiver.c`.

The functions of libcoap that read a header are parameters (`TcpHeader`); what they are to say is
`TcpHeader.Encodes`.

Allocations succeed. `tlsLen` is not part of a session here: these functions do not read it.
-/
import Iochibity.Lib.Framing
import Mathlib.Data.UInt

namespace Iochibity.Comm

section

inductive CoapTransport
  | udp
  | tcp
  | tcp8bit
  | tcp16bit
  | tcp32bit
  deriving DecidableEq

structure TcpHeader where
  typeFromInitbyte : UInt8 → CoapTransport
  lengthForTransport : CoapTransport → ℕ
  lengthFromHeader : List UInt8 → CoapTransport → ℕ
  headerLength : List UInt8 → ℕ

def encodedHeaderLength (initbyte : UInt8) : ℕ :=
  if initbyte >>> 4 < 13 then 2
  else if initbyte >>> 4 = 13 then 3
  else if initbyte >>> 4 = 14 then 4
  else 6

variable (bytes : List UInt8)

def byteAt (i : ℕ) : ℕ := (bytes.getD i 0).toNat

def encodedLength : ℕ :=
  if bytes.headD 0 >>> 4 < 13 then (bytes.headD 0 >>> 4).toNat
  else if bytes.headD 0 >>> 4 = 13 then byteAt bytes 1 + 13
  else if bytes.headD 0 >>> 4 = 14 then byteAt bytes 1 * 256 + byteAt bytes 2 + 269
  else ((byteAt bytes 1 * 256 + byteAt bytes 2) * 256 + byteAt bytes 3) * 256 + byteAt bytes 4
    + 65805

def encodedHeaderAndToken : ℕ :=
  encodedHeaderLength (bytes.headD 0) + (bytes.headD 0 &&& 0x0F).toNat

def encodedTotal : ℕ := encodedHeaderAndToken bytes + encodedLength bytes

structure TcpHeader.Encodes (libcoap : TcpHeader) : Prop where
  header : ∀ initbyte : UInt8,
    libcoap.lengthForTransport (libcoap.typeFromInitbyte (initbyte >>> 4))
      = encodedHeaderLength initbyte
  length : ∀ bytes : List UInt8, encodedHeaderLength (bytes.headD 0) ≤ bytes.length →
    libcoap.lengthFromHeader bytes (libcoap.typeFromInitbyte (bytes.headD 0 >>> 4))
      = encodedLength bytes
  token : ∀ bytes : List UInt8, encodedHeaderLength (bytes.headD 0) ≤ bytes.length →
    libcoap.headerLength bytes = encodedHeaderAndToken bytes

/-! ## Sessions -/

inductive CAProtocol
  | unknown
  | coap
  | tls
  deriving DecidableEq

/-- `CATCPSessionInfo_t`; `allocated` is the size of the buffer at `data`. -/
structure TcpSession where
  data : Option (List UInt8)
  allocated : ℕ
  totalLen : ℕ
  protocol : CAProtocol
  deriving DecidableEq

def TcpSession.len (svritem : TcpSession) : ℕ := (svritem.data.getD []).length

def emptySession : TcpSession := ⟨none, 0, 0, .unknown⟩

def caCleanData (_svritem : TcpSession) : TcpSession := emptySession

def coapMaxHeaderSize : ℕ := 6

variable (libcoap : TcpHeader)

def caGetTotalLengthFromHeader (recvBuffer : List UInt8) : ℕ :=
  libcoap.headerLength recvBuffer
    + libcoap.lengthFromHeader recvBuffer (libcoap.typeFromInitbyte (recvBuffer.headD 0 >>> 4))

structure Copy where
  offset : ℕ
  length : ℕ
  allocated : ℕ
  deriving DecidableEq

def Copy.Inside (copy : Copy) : Prop := copy.offset + copy.length ≤ copy.allocated

/-- Where `CAConstructCoAP` is: the session, `inBuffer` with `inLen` bytes, and its copies. -/
structure Constructing where
  svritem : TcpSession
  inBuffer : List UInt8
  copies : List Copy

variable (c : Constructing)

def Constructing.copy (wanted : ℕ) : Constructing :=
  let copyLen := if c.inBuffer.length < wanted then c.inBuffer.length else wanted
  { svritem :=
      { c.svritem with data := some (c.svritem.data.getD [] ++ c.inBuffer.take copyLen) }
    inBuffer := c.inBuffer.drop copyLen
    copies := c.copies ++ [⟨c.svritem.len, copyLen, c.svritem.allocated⟩] }

def startMessage (svritem : TcpSession) (inBuffer : List UInt8) : Constructing :=
  match svritem.data, inBuffer with
  | none, first :: rest =>
    ⟨{ svritem with data := some [first], allocated := coapMaxHeaderSize }, rest,
      [⟨0, 1, coapMaxHeaderSize⟩]⟩
  | _, _ => ⟨svritem, inBuffer, []⟩

def Constructing.measured : Constructing :=
  let totalLen := caGetTotalLengthFromHeader libcoap (c.svritem.data.getD [])
  { c with svritem := { c.svritem with totalLen := totalLen, allocated := totalLen } }

/-- The part of `CAConstructCoAP` under "PAYLOAD". -/
def Constructing.payload : Constructing :=
  if c.inBuffer = [] then c else c.copy (c.svritem.totalLen - c.svritem.len)

/-- The part of `CAConstructCoAP` from "HEADER" on. -/
def Constructing.header : Constructing :=
  let initbyte := (c.svritem.data.getD []).headD 0
  let headerLen := libcoap.lengthForTransport (libcoap.typeFromInitbyte (initbyte >>> 4))
  if c.svritem.len < headerLen then
    let copied := c.copy (headerLen - c.svritem.len)
    if copied.svritem.len < headerLen then copied else (copied.measured libcoap).payload
  else c.payload

/-- `CAConstructCoAP`. When the first byte is all there is, the caller's buffer stays as it is. -/
def caConstructCoAP (svritem : TcpSession) (data : List UInt8) : Constructing :=
  let started := startMessage svritem data
  if started.inBuffer = [] then { started with inBuffer := data }
  else { started with svritem := { started.svritem with protocol := .coap } }.header libcoap

/-- What becomes of a chunk: bytes are copied, messages are passed on to
`mh_CAReceivedPacketCallback`. -/
inductive TcpEvent
  | copied (copy : Copy)
  | passed (message : List UInt8)
  deriving DecidableEq

def TcpEvent.message : TcpEvent → Option (List UInt8)
  | .copied _ => none
  | .passed message => some message

/-- The loop of `CATCPPacketReceivedCB`; `none` when it goes on after so many turns. -/
def packetReceivedLoop (libcoap : TcpHeader) :
    ℕ → TcpSession → List UInt8 → Option (TcpSession × List TcpEvent)
  | 0, svritem, buffer => if buffer = [] then some (svritem, []) else none
  | turns + 1, svritem, buffer =>
    if buffer = [] then some (svritem, [])
    else
      let c := caConstructCoAP libcoap svritem buffer
      let copies := c.copies.map TcpEvent.copied
      if c.svritem.len = c.svritem.totalLen then
        (packetReceivedLoop libcoap turns (caCleanData c.svritem) c.inBuffer).map
          (fun done => (done.1, copies ++ .passed (c.svritem.data.getD []) :: done.2))
      else
        (packetReceivedLoop libcoap turns c.svritem c.inBuffer).map
          (fun done => (done.1, copies ++ done.2))

/-- `CATCPPacketReceivedCB`: one turn for each byte and one more are enough if any number is. -/
def catcpPacketReceivedCB (svritem : TcpSession) (data : List UInt8) :
    Option (TcpSession × List TcpEvent) :=
  if svritem.protocol = .unknown then some (svritem, [])
  else packetReceivedLoop libcoap (data.length + 1) svritem data

/-- `CAReceiveMessage`, for a chunk that `recv` or `CAdecryptSsl` has: it sets the protocol. -/
def caReceiveMessage (secure : Bool) (svritem : TcpSession)
    (chunk : List UInt8) : Option (TcpSession × List TcpEvent) :=
  catcpPacketReceivedCB libcoap { svritem with protocol := if secure then .tls else .coap } chunk

def receiveChunks (libcoap : TcpHeader) (secure : Bool) :
    TcpSession → List (List UInt8) → Option (TcpSession × List TcpEvent)
  | svritem, [] => some (svritem, [])
  | svritem, chunk :: chunks => do
      let received ← caReceiveMessage libcoap secure svritem chunk
      let later ← receiveChunks libcoap secure received.1 chunks
      pure (later.1, received.2 ++ later.2)

end

open Framing (Framed frame)
open List

/-! ## Messages -/

def messageComplete (bytes : List UInt8) : Bool :=
  encodedHeaderLength (bytes.headD 0) ≤ bytes.length ∧ bytes.length = encodedTotal bytes

def WellFormedMessage (bytes : List UInt8) : Prop := messageComplete bytes = true

lemma two_le_headerLength (initbyte : UInt8) : 2 ≤ encodedHeaderLength initbyte := by
  unfold encodedHeaderLength
  split
  · exact Nat.le_refl _
  split
  · decide
  · split <;> decide

lemma headerLength_le_six (initbyte : UInt8) : encodedHeaderLength initbyte ≤ 6 := by
  unfold encodedHeaderLength
  split
  · decide
  split
  · decide
  · split <;> decide

lemma headerLength_le_total (bytes : List UInt8) :
    encodedHeaderLength (bytes.headD 0) ≤ encodedTotal bytes := by
  unfold encodedTotal encodedHeaderAndToken
  omega

variable {bytes : List UInt8}

lemma headD_append (hne : bytes ≠ []) (more : List UInt8) :
    (bytes ++ more).headD 0 = bytes.headD 0 := by
  cases bytes with
  | nil => exact absurd rfl hne
  | cons first rest => rfl

lemma byteAt_append {i : ℕ} (hi : i < bytes.length)
    (more : List UInt8) : byteAt (bytes ++ more) i = byteAt bytes i := by
  unfold byteAt
  rw [getD_eq_getElem?_getD, getElem?_append_left hi, ← getD_eq_getElem?_getD]

lemma encodedTotal_append (hheader : encodedHeaderLength (bytes.headD 0) ≤ bytes.length)
    (more : List UInt8) :
    encodedTotal (bytes ++ more) = encodedTotal bytes := by
  have htwo := two_le_headerLength (bytes.headD 0)
  have hne : bytes ≠ [] := by
    rintro rfl
    rw [length_nil] at hheader
    omega
  unfold encodedTotal encodedHeaderAndToken encodedLength
  rw [headD_append hne]
  unfold encodedHeaderLength at hheader ⊢
  split
  · rfl
  next hshort =>
  rw [if_neg hshort] at hheader
  split
  · next h8 =>
    rw [if_pos h8] at hheader
    rw [byteAt_append (by omega)]
  next h8 =>
  rw [if_neg h8] at hheader
  split
  · next h16 =>
    rw [if_pos h16] at hheader
    rw [byteAt_append (by omega), byteAt_append (by omega)]
  next h16 =>
  rw [if_neg h16] at hheader
  rw [byteAt_append (by omega), byteAt_append (by omega), byteAt_append (by omega),
    byteAt_append (by omega)]

lemma messageComplete_iff (bytes : List UInt8) :
    messageComplete bytes = true ↔ encodedHeaderLength (bytes.headD 0) ≤ bytes.length
        ∧ bytes.length = encodedTotal bytes := by
  unfold messageComplete
  simp

lemma messageComplete_false
    (h : bytes.length < encodedHeaderLength (bytes.headD 0) ∨ bytes.length < encodedTotal bytes) :
    messageComplete bytes = false := by
  rw [Bool.eq_false_iff, Ne, messageComplete_iff]
  omega

lemma messageComplete_single (first : UInt8) : messageComplete [first] = false := by
  refine messageComplete_false (.inl ?_)
  have htwo := two_le_headerLength first
  exact htwo

lemma WellFormedMessage.isFrame {message : List UInt8} (h : WellFormedMessage message) :
    Framing.IsFrame messageComplete message := by
  obtain ⟨hheader, htotal⟩ := (messageComplete_iff message).mp h
  have htwo := two_le_headerLength (message.headD 0)
  refine ⟨h, by rintro rfl; rw [length_nil] at hheader; omega, ?_⟩
  intro k hk hlt
  have hlength : (message.take k).length = k := length_take_of_le (Nat.le_of_lt hlt)
  have hhead : (message.take k).headD 0 = message.headD 0 := by
    have hne : message.take k ≠ [] := by
      rw [← length_pos_iff, hlength]
      exact hk
    conv_rhs => rw [← take_append_drop k message]
    exact (headD_append hne _).symm
  refine messageComplete_false ?_
  rw [hlength, hhead]
  by_cases hpart : k < encodedHeaderLength (message.headD 0)
  · exact .inl hpart
  refine .inr ?_
  have hlong : encodedHeaderLength ((message.take k).headD 0) ≤ (message.take k).length := by
    rw [hlength, hhead]
    omega
  have hsame := encodedTotal_append hlong (message.drop k)
  rw [take_append_drop] at hsame
  omega

/-! ## Sessions -/

/-- The session has collected these bytes: its buffer is large enough, and behind the header the
length of the message is known and not exceeded. -/
structure Collected (svritem : TcpSession) (bytes : List UInt8) : Prop where
  data : svritem.data = if bytes = [] then none else some bytes
  partly : bytes.length < encodedHeaderLength (bytes.headD 0) →
    svritem.totalLen = 0 ∧ (bytes ≠ [] → svritem.allocated = coapMaxHeaderSize)
  wholly : encodedHeaderLength (bytes.headD 0) ≤ bytes.length →
    svritem.totalLen = encodedTotal bytes ∧ svritem.allocated = encodedTotal bytes
      ∧ bytes.length ≤ encodedTotal bytes

lemma collected_empty (protocol : CAProtocol) :
    Collected { emptySession with protocol := protocol } [] where
  data := rfl
  partly := fun _ => ⟨rfl, fun h => absurd rfl h⟩
  wholly := fun h => absurd h (by decide)

variable {svritem : TcpSession}

section

variable (h : Collected svritem bytes)
include h

lemma Collected.protocol (protocol : CAProtocol) :
    Collected { svritem with protocol := protocol } bytes :=
  ⟨h.data, h.partly, h.wholly⟩

lemma Collected.getD : svritem.data.getD [] = bytes := by
  rw [h.data]
  split
  · next hempty => exact hempty.symm
  · rfl

lemma Collected.len : svritem.len = bytes.length := by
  rw [TcpSession.len, h.getD]

lemma Collected.len_eq_totalLen_iff (hne : bytes ≠ []) :
    svritem.len = svritem.totalLen ↔ messageComplete bytes = true := by
  rw [h.len, messageComplete_iff]
  have hpos := length_pos_iff.mpr hne
  by_cases hpart : bytes.length < encodedHeaderLength (bytes.headD 0)
  · rw [(h.partly hpart).1]
    omega
  rw [(h.wholly (by omega)).1]
  omega

end

/-- How far a turn has come: the first `taken` bytes of the buffer are collected, no message was
complete before the last of them, and the copies stayed inside. -/
structure Turn (bytes buffer : List UInt8) (taken : ℕ) (c : Constructing) : Prop where
  collected : Collected c.svritem (bytes ++ buffer.take taken)
  inBuffer : c.inBuffer = buffer.drop taken
  within : taken ≤ buffer.length
  incomplete : ∀ j, 0 < j → j < taken → messageComplete (bytes ++ buffer.take j) = false
  inside : ∀ copy ∈ c.copies, copy.Inside

section Turns

variable {bytes buffer : List UInt8} {taken : ℕ} {c : Constructing}

lemma Turn.rest_length (h : Turn bytes buffer taken c) :
    c.inBuffer.length = buffer.length - taken := by
  rw [h.inBuffer, length_drop]

lemma append_take_add (bytes buffer : List UInt8) (taken more : ℕ) :
    bytes ++ buffer.take (taken + more)
      = (bytes ++ buffer.take taken) ++ (buffer.drop taken).take more := by
  rw [take_add, append_assoc]

lemma length_append_take {k : ℕ} (hk : k ≤ buffer.length) :
    (bytes ++ buffer.take k).length = bytes.length + k := by
  simp [hk]

def Constructing.copied (c : Constructing) (wanted : ℕ) : ℕ :=
  if c.inBuffer.length < wanted then c.inBuffer.length else wanted

section

variable (h : Turn bytes buffer taken c)
include h

lemma Turn.copy_data (wanted : ℕ) :
    (c.copy wanted).svritem
      = { c.svritem with data := some (bytes ++ buffer.take (taken + c.copied wanted)) } := by
  show { c.svritem with data := some (c.svritem.data.getD [] ++ c.inBuffer.take (c.copied wanted)) }
    = _
  rw [h.collected.getD, h.inBuffer, append_take_add]

lemma Turn.copy_inBuffer (wanted : ℕ) :
    (c.copy wanted).inBuffer = buffer.drop (taken + c.copied wanted) := by
  show c.inBuffer.drop (c.copied wanted) = _
  rw [h.inBuffer, drop_drop]

lemma Turn.copy_within (wanted : ℕ) : taken + c.copied wanted ≤ buffer.length := by
  have hlength := h.rest_length
  have hwithin := h.within
  unfold Constructing.copied
  split <;> omega

lemma Turn.copy_inside {wanted : ℕ}
    (hroom : (bytes ++ buffer.take taken).length + wanted ≤ c.svritem.allocated) :
    ∀ copy ∈ (c.copy wanted).copies, copy.Inside := by
  intro copy hcopy
  rcases mem_append.mp hcopy with hold | hnew
  · exact h.inside copy hold
  rw [mem_singleton.mp hnew]
  show c.svritem.len + c.copied wanted ≤ c.svritem.allocated
  rw [h.collected.len]
  unfold Constructing.copied
  split <;> omega

lemma Turn.payload (hheader : encodedHeaderLength ((bytes ++ buffer.take taken).headD 0)
      ≤ (bytes ++ buffer.take taken).length) :
    ∃ more, Turn bytes buffer (taken + more) c.payload
      ∧ ((bytes ++ buffer.take taken).length < encodedTotal (bytes ++ buffer.take taken) →
          taken < buffer.length → 0 < more) := by
  unfold Constructing.payload
  by_cases hend : c.inBuffer = []
  · rw [if_pos hend]
    refine ⟨0, h, fun _ hlt => ?_⟩
    have hlength := h.rest_length
    rw [hend, length_nil] at hlength
    omega
  rw [if_neg hend]
  obtain ⟨htotal, hallocated, hle⟩ := h.collected.wholly hheader
  have hne : bytes ++ buffer.take taken ≠ [] := by
    have htwo := two_le_headerLength ((bytes ++ buffer.take taken).headD 0)
    rw [← length_pos_iff]
    omega
  have hlength := h.rest_length
  have hmissing : c.svritem.totalLen - c.svritem.len
      = encodedTotal (bytes ++ buffer.take taken) - (bytes ++ buffer.take taken).length := by
    rw [htotal, h.collected.len]
  have hcopied : c.copied (c.svritem.totalLen - c.svritem.len)
      ≤ encodedTotal (bytes ++ buffer.take taken) - (bytes ++ buffer.take taken).length := by
    rw [hmissing]
    unfold Constructing.copied
    split <;> omega
  have hwithin := h.copy_within (c.svritem.totalLen - c.svritem.len)
  -- The header stays what it is, and the length with it.
  have hsame : ∀ k, encodedTotal (bytes ++ buffer.take (taken + k))
        = encodedTotal (bytes ++ buffer.take taken)
      ∧ (bytes ++ buffer.take (taken + k)).headD 0 = (bytes ++ buffer.take taken).headD 0 := by
    intro k
    rw [append_take_add]
    exact ⟨encodedTotal_append hheader _, headD_append hne _⟩
  have hgrows : ∀ k, taken + k ≤ buffer.length →
      (bytes ++ buffer.take (taken + k)).length = (bytes ++ buffer.take taken).length + k := by
    intro k hk
    rw [length_append_take hk, length_append_take h.within]
    omega
  refine ⟨c.copied (c.svritem.totalLen - c.svritem.len), ⟨⟨?_, ?_, ?_⟩,
    h.copy_inBuffer _, hwithin, ?_, h.copy_inside ?_⟩, ?_⟩
  · rw [h.copy_data, if_neg]
    intro hempty
    have hlong := hgrows _ hwithin
    rw [hempty, length_nil] at hlong
    have hpos := length_pos_iff.mpr hne
    omega
  · rw [(hsame _).2, hgrows _ hwithin]
    intro hlt
    omega
  · intro _
    rw [h.copy_data, (hsame _).1, hgrows _ hwithin]
    exact ⟨htotal, hallocated, by omega⟩
  · intro j hj hlt
    by_cases hbefore : j < taken
    · exact h.incomplete j hj hbefore
    obtain ⟨k, rfl⟩ : ∃ k, j = taken + k := ⟨j - taken, by omega⟩
    refine messageComplete_false (.inr ?_)
    rw [(hsame k).1, hgrows k (by omega)]
    omega
  · rw [hallocated, hmissing]
    omega
  · intro hshort hlt
    unfold Constructing.copied
    split <;> omega

end

lemma Turn.header {libcoap : TcpHeader} (hlib : libcoap.Encodes)
    (h : Turn bytes buffer taken c) (hne : bytes ++ buffer.take taken ≠ [])
    (hinc : messageComplete (bytes ++ buffer.take taken) = false) (hlt : taken < buffer.length) :
    ∃ more, 0 < more ∧ Turn bytes buffer (taken + more) (c.header libcoap) := by
  have hlen := h.collected.len
  have hheaderLen : libcoap.lengthForTransport
      (libcoap.typeFromInitbyte ((c.svritem.data.getD []).headD 0 >>> 4))
      = encodedHeaderLength ((bytes ++ buffer.take taken).headD 0) := by
    rw [hlib.header, h.collected.getD]
  unfold Constructing.header
  dsimp only
  rw [hheaderLen, hlen]
  generalize hheader : encodedHeaderLength ((bytes ++ buffer.take taken).headD 0) = headerLen
  have hsix := headerLength_le_six ((bytes ++ buffer.take taken).headD 0)
  rw [hheader] at hsix
  by_cases hpart : (bytes ++ buffer.take taken).length < headerLen
  · rw [if_pos hpart]
    obtain ⟨htotal, hallocated⟩ := h.collected.partly (by rw [hheader]; exact hpart)
    have hrest := h.rest_length
    have hwithin := h.copy_within (headerLen - (bytes ++ buffer.take taken).length)
    generalize hmore : c.copied (headerLen - (bytes ++ buffer.take taken).length) = more at hwithin
    have hbounds : 0 < more ∧ more ≤ headerLen - (bytes ++ buffer.take taken).length := by
      rw [← hmore]
      unfold Constructing.copied
      split <;> omega
    have hhead : ∀ k, (bytes ++ buffer.take (taken + k)).headD 0
        = (bytes ++ buffer.take taken).headD 0 := by
      intro k
      rw [append_take_add]
      exact headD_append hne _
    have hgrows : ∀ k, taken + k ≤ buffer.length →
        (bytes ++ buffer.take (taken + k)).length = (bytes ++ buffer.take taken).length + k := by
      intro k hk
      rw [length_append_take hk, length_append_take h.within]
      omega
    have hdata := h.copy_data (headerLen - (bytes ++ buffer.take taken).length)
    have hbuffer := h.copy_inBuffer (headerLen - (bytes ++ buffer.take taken).length)
    rw [hmore] at hdata hbuffer
    have hinside : ∀ copy ∈ (c.copy
        (headerLen - (bytes ++ buffer.take taken).length)).copies, copy.Inside := by
      apply h.copy_inside
      rw [hallocated hne]
      show _ ≤ 6
      omega
    have hincomplete : ∀ j, 0 < j → j < taken + more →
        messageComplete (bytes ++ buffer.take j) = false := by
      intro j hj hjlt
      by_cases hbefore : j < taken
      · exact h.incomplete j hj hbefore
      obtain ⟨k, rfl⟩ : ∃ k, j = taken + k := ⟨j - taken, by omega⟩
      refine messageComplete_false (.inl ?_)
      rw [hhead, hheader, hgrows k (by omega)]
      omega
    have hgrown := hgrows more hwithin
    have hnonempty : bytes ++ buffer.take (taken + more) ≠ [] := by
      rw [← length_pos_iff]
      omega
    have hlength : (c.copy (headerLen - (bytes ++ buffer.take taken).length)).svritem.len
        = (bytes ++ buffer.take taken).length + more := by
      rw [TcpSession.len, hdata]
      exact hgrown
    rw [hlength]
    by_cases hstill : (bytes ++ buffer.take taken).length + more < headerLen
    · rw [if_pos hstill]
      refine ⟨more, hbounds.1, ⟨⟨?_, ?_, ?_⟩, hbuffer, hwithin, hincomplete, hinside⟩⟩
      · rw [hdata, if_neg hnonempty]
      · rw [hdata]
        exact fun _ => ⟨htotal, fun _ => hallocated hne⟩
      · rw [hhead, hheader, hgrown]
        intro hle
        omega
    rw [if_neg hstill]
    have hthere : encodedHeaderLength ((bytes ++ buffer.take (taken + more)).headD 0)
        ≤ (bytes ++ buffer.take (taken + more)).length := by
      rw [hhead, hheader, hgrown]
      omega
    have hmeasure : caGetTotalLengthFromHeader libcoap (bytes ++ buffer.take (taken + more))
        = encodedTotal (bytes ++ buffer.take (taken + more)) := by
      rw [caGetTotalLengthFromHeader, hlib.length _ hthere, hlib.token _ hthere]
      rfl
    have hle := headerLength_le_total (bytes ++ buffer.take (taken + more))
    have hturn : Turn bytes buffer (taken + more)
        ((c.copy (headerLen - (bytes ++ buffer.take taken).length)).measured libcoap) := by
      refine ⟨⟨?_, ?_, ?_⟩, hbuffer, hwithin, hincomplete, hinside⟩
      · unfold Constructing.measured
        rw [hdata, if_neg hnonempty]
      · intro hshort
        omega
      · intro _
        unfold Constructing.measured
        rw [hdata]
        refine ⟨hmeasure, hmeasure, ?_⟩
        rw [hhead, hheader] at hle
        omega
    obtain ⟨later, hpayload, -⟩ := hturn.payload hthere
    refine ⟨more + later, by omega, ?_⟩
    rw [← Nat.add_assoc]
    exact hpayload
  · rw [if_neg hpart]
    have hthere : encodedHeaderLength ((bytes ++ buffer.take taken).headD 0)
        ≤ (bytes ++ buffer.take taken).length := by omega
    obtain ⟨more, hpayload, hpos⟩ := h.payload hthere
    refine ⟨more, hpos ?_ hlt, hpayload⟩
    obtain ⟨-, -, hle⟩ := h.collected.wholly hthere
    have hnot := (Bool.eq_false_iff.mp hinc)
    rw [Ne, messageComplete_iff] at hnot
    omega

end Turns

/-! ## One call -/

lemma startMessage_collecting (hne : bytes ≠ []) (h : Collected svritem bytes)
    (buffer : List UInt8) :
    startMessage svritem buffer = ⟨svritem, buffer, []⟩ := by
  have hdata := h.data
  rw [if_neg hne] at hdata
  unfold startMessage
  rw [hdata]

lemma startMessage_empty (h : Collected svritem []) (first : UInt8) (rest : List UInt8) :
    startMessage svritem (first :: rest)
      = ⟨{ svritem with data := some [first], allocated := coapMaxHeaderSize }, rest,
          [⟨0, 1, coapMaxHeaderSize⟩]⟩ := by
  have hdata := h.data
  rw [if_pos rfl] at hdata
  unfold startMessage
  rw [hdata]

lemma startMessage_turn (h : Collected svritem []) (first : UInt8)
    (rest : List UInt8) : Turn [] (first :: rest) 1 (startMessage svritem (first :: rest)) := by
  rw [startMessage_empty h]
  have htwo := two_le_headerLength first
  obtain ⟨htotal, -⟩ := h.partly (by exact Nat.lt_of_lt_of_le Nat.two_pos (two_le_headerLength 0))
  refine ⟨⟨rfl, fun _ => ⟨htotal, fun _ => rfl⟩, ?_⟩, rfl, ?_, ?_, ?_⟩
  · intro hle
    exact absurd (show encodedHeaderLength first ≤ 1 from hle) (by omega)
  · rw [length_cons]
    omega
  · intro j hj hlt
    omega
  · intro copy hcopy
    rw [mem_singleton.mp hcopy]
    show 0 + 1 ≤ 6
    omega

variable {libcoap : TcpHeader}

lemma caConstructCoAP_spec (hlib : libcoap.Encodes) (h : Collected svritem bytes)
    (hinc : messageComplete bytes = false) {buffer : List UInt8} (hbuffer : buffer ≠ []) :
    (bytes = [] ∧ buffer.length = 1 ∧ (caConstructCoAP libcoap svritem buffer).inBuffer = buffer
        ∧ Collected (caConstructCoAP libcoap svritem buffer).svritem buffer
        ∧ ∀ copy ∈ (caConstructCoAP libcoap svritem buffer).copies, copy.Inside)
      ∨ ((bytes = [] → buffer.length ≠ 1) ∧ ∃ more, 0 < more
              ∧ Turn bytes buffer more (caConstructCoAP libcoap svritem buffer)) := by
  unfold caConstructCoAP
  by_cases hne : bytes = []
  · rw [hne] at h ⊢
    obtain ⟨first, rest, rfl⟩ := exists_cons_of_ne_nil hbuffer
    have hturn := startMessage_turn h first rest
    have hin : (startMessage svritem (first :: rest)).inBuffer = rest := hturn.inBuffer
    by_cases hrest : rest = []
    · left
      rw [hrest] at hturn hin ⊢
      dsimp only
      rw [if_pos hin]
      exact ⟨rfl, rfl, rfl, hturn.collected, hturn.inside⟩
    right
    have hpos := length_pos_iff.mpr hrest
    dsimp only
    rw [if_neg (by rw [hin]; exact hrest), length_cons]
    refine ⟨fun _ => by omega, ?_⟩
    have hcoap : Turn [] (first :: rest) 1
        { startMessage svritem (first :: rest) with
          svritem :=
            { (startMessage svritem (first :: rest)).svritem with protocol := .coap } } :=
      { hturn with collected := hturn.collected.protocol .coap }
    obtain ⟨more, -, hheader⟩ := hcoap.header hlib (cons_ne_nil _ _)
      (messageComplete_single first) (by rw [length_cons]; omega)
    exact ⟨1 + more, by omega, hheader⟩
  right
  refine ⟨fun hempty => absurd hempty hne, ?_⟩
  rw [startMessage_collecting hne h]
  dsimp only
  rw [if_neg hbuffer]
  have hturn : Turn bytes buffer 0 ⟨{ svritem with protocol := .coap }, buffer, []⟩ := by
    refine ⟨?_, rfl, Nat.zero_le _, fun j hj hlt => by omega, fun _ hmem => nomatch hmem⟩
    rw [take_zero, append_nil]
    exact h.protocol .coap
  have hsame : bytes ++ buffer.take 0 = bytes := by rw [take_zero, append_nil]
  obtain ⟨more, hpos, hheader⟩ := hturn.header hlib (by rw [hsame]; exact hne)
    (by rw [hsame]; exact hinc) (length_pos_iff.mpr hbuffer)
  rw [Nat.zero_add] at hheader
  exact ⟨more, hpos, hheader⟩

/-! ## Chunks -/

/-- What comes of the bytes that a session is fed: it passes on the messages they complete, has
collected the rest, and all copies stayed inside. -/
structure Received (bytes fed : List UInt8) (svritem : TcpSession) (events : List TcpEvent) :
    Prop where
  collected : Collected svritem (frame messageComplete bytes fed).rest
  passes : events.filterMap TcpEvent.message = (frame messageComplete bytes fed).frames
  inside : ∀ copy, TcpEvent.copied copy ∈ events → copy.Inside

lemma Received.append {xs ys : List UInt8} {svritem' : TcpSession}
    {events events' : List TcpEvent} (hxs : Received bytes xs svritem events)
    (hys : Received (frame messageComplete bytes xs).rest ys svritem' events') :
    Received bytes (xs ++ ys) svritem' (events ++ events') where
  collected := by
    rw [Framing.frame_append]
    exact hys.collected
  passes := by
    rw [Framing.frame_append, filterMap_append, hxs.passes, hys.passes]
  inside := by
    intro copy hmem
    rcases mem_append.mp hmem with h | h
    · exact hxs.inside copy h
    · exact hys.inside copy h

lemma copied_of_mem_map {copies : List Copy} {copy : Copy}
    (h : TcpEvent.copied copy ∈ copies.map TcpEvent.copied) : copy ∈ copies := by
  obtain ⟨copy', hmem, hsame⟩ := mem_map.mp h
  rwa [← TcpEvent.copied.inj hsame]

lemma filterMap_copies (copies : List Copy) :
    (copies.map TcpEvent.copied).filterMap TcpEvent.message = [] := by
  rw [filterMap_map]
  exact filterMap_eq_nil_iff.mpr (fun _ _ => rfl)

def turnOf (c : Constructing) : TcpSession × List TcpEvent :=
  if c.svritem.len = c.svritem.totalLen then
    (caCleanData c.svritem, c.copies.map .copied ++ [.passed (c.svritem.data.getD [])])
  else (c.svritem, c.copies.map .copied)

lemma packetReceivedLoop_succ (libcoap : TcpHeader) (turns : ℕ) (svritem : TcpSession)
    {buffer : List UInt8} (hbuffer : buffer ≠ []) :
    packetReceivedLoop libcoap (turns + 1) svritem buffer
      = (packetReceivedLoop libcoap turns (turnOf (caConstructCoAP libcoap svritem buffer)).1
          (caConstructCoAP libcoap svritem buffer).inBuffer).map
        (fun done => (done.1, (turnOf (caConstructCoAP libcoap svritem buffer)).2 ++ done.2)) := by
  rw [packetReceivedLoop, if_neg hbuffer]
  unfold turnOf
  dsimp only
  split
  · simp
  · rfl

lemma packetReceivedLoop_nil (libcoap : TcpHeader) (turns : ℕ) (svritem : TcpSession) :
    packetReceivedLoop libcoap turns svritem [] = some (svritem, []) := by
  cases turns with
  | zero | succ => rw [packetReceivedLoop, if_pos rfl]

lemma turnOf_received (bytes : List UInt8) {fed : List UInt8} {c : Constructing} (hfed : fed ≠ [])
    (hcollected : Collected c.svritem (bytes ++ fed))
    (hincomplete : ∀ j, 0 < j → j < fed.length → messageComplete (bytes ++ fed.take j) = false)
    (hinside : ∀ copy ∈ c.copies, copy.Inside) :
    Received bytes fed (turnOf c).1 (turnOf c).2 := by
  have hne : bytes ++ fed ≠ [] := fun h => hfed (append_eq_nil_iff.mp h).2
  unfold turnOf
  by_cases hall : messageComplete (bytes ++ fed) = true
  · rw [if_pos ((hcollected.len_eq_totalLen_iff hne).mpr hall)]
    have hframe := Framing.frame_completes messageComplete bytes fed hfed hincomplete hall
    constructor
    · rw [hframe]
      exact collected_empty .unknown
    · rw [hframe, filterMap_append, filterMap_copies, hcollected.getD]
      rfl
    · intro copy hmem
      rcases mem_append.mp hmem with h | h
      · exact hinside copy (copied_of_mem_map h)
      · exact nomatch mem_singleton.mp h
  rw [if_neg (fun h => hall ((hcollected.len_eq_totalLen_iff hne).mp h))]
  have hframe := Framing.frame_collects messageComplete bytes fed (by
    intro k hk hle
    by_cases hlast : k = fed.length
    · rw [hlast, take_length]
      simp [hall]
    · exact hincomplete k hk (by omega))
  constructor
  · rw [hframe]
    exact hcollected
  · rw [hframe]
    exact filterMap_copies c.copies
  · exact fun copy hmem => hinside copy (copied_of_mem_map hmem)

def fedBytes (bytes buffer : List UInt8) : List UInt8 :=
  if buffer = [] then [] else Framing.stuttered messageComplete bytes buffer

lemma packetReceivedLoop_spec (hlib : libcoap.Encodes) (turns : ℕ) (bytes buffer : List UInt8)
    (svritem : TcpSession) (h : Collected svritem bytes) (hinc : messageComplete bytes = false)
    (hturns : buffer = [] ∨ buffer.length + 1 ≤ turns
      ∨ (bytes ≠ [] ∧ buffer.length = 1 ∧ 1 ≤ turns)) :
    ∃ svritem' events, packetReceivedLoop libcoap turns svritem buffer = some (svritem', events)
      ∧ Received bytes (fedBytes bytes buffer) svritem' events := by
  induction turns generalizing bytes buffer svritem with
  | zero =>
    have hbuffer : buffer = [] := by
      rcases hturns with h | h | ⟨-, -, h⟩
      · exact h
      · omega
      · omega
    rw [hbuffer, packetReceivedLoop_nil]
    exact ⟨svritem, [], rfl, h, rfl, fun _ hmem => absurd hmem not_mem_nil⟩
  | succ turns ih =>
    by_cases hbuffer : buffer = []
    · rw [hbuffer, packetReceivedLoop_nil]
      exact ⟨svritem, [], rfl, h, rfl, fun _ hmem => absurd hmem not_mem_nil⟩
    rw [packetReceivedLoop_succ libcoap turns svritem hbuffer]
    have hpos := length_pos_iff.mpr hbuffer
    obtain ⟨hempty, hone, hin, hcollected, hinside⟩ | ⟨hnotone, more, hmore, hturn⟩ :=
      caConstructCoAP_spec hlib h hinc hbuffer
    · -- The only byte of the buffer is collected and stays in the buffer.
      obtain ⟨first, rfl⟩ := length_eq_one_iff.mp hone
      rw [hempty] at hturns ⊢
      have hfirst := turnOf_received [] hbuffer hcollected (fun j hj hlt => by omega) hinside
      have hcollects : frame messageComplete [] [first] = ⟨[], [first]⟩ :=
        Framing.frame_collects messageComplete [] [first] (by
          intro k hk hle
          rw [take_of_length_le hk]
          exact messageComplete_single first)
      have hstutters : ∀ rest : List UInt8, rest = [] →
          Framing.stuttered messageComplete rest [first] = [first] ++ [first] := by
        rintro rest rfl
        rw [Framing.stuttered, hcollects]
        exact if_pos rfl
      have hcollectedFirst := hfirst.collected
      rw [hcollects] at hcollectedFirst
      obtain ⟨svritem', events, hloop, hrest⟩ := ih [first] [first] _ hcollectedFirst
        (messageComplete_single first)
        (.inr (.inr ⟨cons_ne_nil _ _, rfl, by
          rcases hturns with h | h | ⟨h, -, -⟩
          · exact absurd h hbuffer
          · rw [length_singleton] at h
            omega
          · exact absurd rfl h⟩))
      rw [hin, hloop]
      refine ⟨_, _, rfl, ?_⟩
      have hagain : fedBytes [first] [first] = [first] := by
        rw [fedBytes, if_neg hbuffer]
        refine Framing.stuttered_of_ne messageComplete
          (Framing.rest_length_ne_one messageComplete hbuffer ?_ (absurd · (cons_ne_nil _ _)))
        intro k hk hlt
        rw [length_singleton] at hlt
        omega
      rw [hagain] at hrest
      rw [fedBytes, if_neg hbuffer, hstutters [] rfl]
      refine hfirst.append ?_
      rw [hcollects]
      exact hrest
    · have htaken : buffer.take more ≠ [] := by
        rw [← length_pos_iff, length_take_of_le hturn.within]
        exact hmore
      have hfirst := turnOf_received _ htaken hturn.collected (by
        intro j hj hlt
        rw [length_take_of_le hturn.within] at hlt
        rw [take_take, Nat.min_eq_left (Nat.le_of_lt hlt)]
        exact hturn.incomplete j hj hlt) hturn.inside
      have hnil : messageComplete [] = false := by decide
      have hlater : (buffer.drop more).length = buffer.length - more := length_drop
      obtain ⟨svritem', events, hloop, hrest⟩ := ih _ (buffer.drop more) _ hfirst.collected
        (Framing.frame_rest_incomplete messageComplete hnil _ _ hinc) (by
          rcases hturns with h | h | ⟨-, h, -⟩
          · exact absurd h hbuffer
          · omega
          · exact .inl (length_eq_zero_iff.mp (by omega)))
      rw [hturn.inBuffer, hloop]
      refine ⟨_, _, rfl, ?_⟩
      have hsplit : fedBytes bytes buffer = buffer.take more
            ++ fedBytes (frame messageComplete bytes (buffer.take more)).rest
              (buffer.drop more) := by
        have hframe : (frame messageComplete bytes buffer).rest
            = (frame messageComplete (frame messageComplete bytes (buffer.take more)).rest
                (buffer.drop more)).rest := by
          conv_lhs => rw [← take_append_drop more buffer]
          rw [Framing.frame_append]
        unfold fedBytes
        rw [if_neg hbuffer]
        by_cases hend : buffer.drop more = []
        · -- All is taken, and no byte of it twice.
          have hwhole : buffer.take more = buffer :=
            take_of_length_le (drop_eq_nil_iff.mp hend)
          rw [if_pos hend, append_nil, hwhole]
          refine Framing.stuttered_of_ne messageComplete
            (Framing.rest_length_ne_one messageComplete hbuffer ?_ hnotone)
          intro k hk hlt
          exact hturn.incomplete k hk (Nat.lt_of_lt_of_le hlt (drop_eq_nil_iff.mp hend))
        rw [if_neg hend]
        unfold Framing.stuttered
        rw [hframe]
        split
        · rw [← append_assoc, take_append_drop]
        · simp
      rw [hsplit]
      exact hfirst.append hrest

/-! ## Streams -/

lemma caReceiveMessage_spec (hlib : libcoap.Encodes) (secure : Bool) {chunk : List UInt8}
    (h : Collected svritem bytes) (hinc : messageComplete bytes = false) (hchunk : chunk ≠ []) :
    ∃ svritem' events, caReceiveMessage libcoap secure svritem chunk = some (svritem', events)
      ∧ Received bytes (Framing.stuttered messageComplete bytes chunk) svritem' events := by
  obtain ⟨svritem', events, hloop, hreceived⟩ := packetReceivedLoop_spec hlib (chunk.length + 1)
    bytes chunk { svritem with protocol := if secure then .tls else .coap } (h.protocol _) hinc
    (.inr (.inl (Nat.le_refl _)))
  rw [fedBytes, if_neg hchunk] at hreceived
  refine ⟨svritem', events, ?_, hreceived⟩
  rw [caReceiveMessage, catcpPacketReceivedCB, if_neg, hloop]
  cases secure <;> exact nofun

lemma receiveChunks_spec (hlib : libcoap.Encodes) (secure : Bool) (chunks : List (List UInt8))
    (hchunks : ∀ chunk ∈ chunks, chunk ≠ []) (h : Collected svritem bytes)
    (hinc : messageComplete bytes = false) :
    ∃ svritem' events, receiveChunks libcoap secure svritem chunks = some (svritem', events)
      ∧ Received bytes (Framing.stutteredAll messageComplete bytes chunks) svritem' events := by
  induction chunks generalizing svritem bytes with
  | nil => exact ⟨svritem, [], rfl, h, rfl, fun _ hmem => absurd hmem not_mem_nil⟩
  | cons chunk chunks ih =>
    obtain ⟨hchunk, hrest⟩ := forall_mem_cons.mp hchunks
    obtain ⟨svritem', events, hfirst, hreceived⟩ :=
      caReceiveMessage_spec hlib secure h hinc hchunk
    have hnil : messageComplete [] = false := by decide
    obtain ⟨svritem'', events', hlater, hreceived'⟩ := ih hrest hreceived.collected
      (Framing.frame_rest_incomplete messageComplete hnil _ _ hinc)
    refine ⟨svritem'', events ++ events', ?_, hreceived.append hreceived'⟩
    rw [receiveChunks, hfirst]
    dsimp only [bind, Option.bind]
    rw [hlater]
    rfl

/-- **The chunks come out as the messages**: every loop ends, the messages are passed on in order
and byte for byte, every copy stays inside, and the session is without data again. -/
def ChunksExact (libcoap : TcpHeader) (secure : Bool) (messages chunks : List (List UInt8)) :
    Prop :=
  ∃ svritem events, receiveChunks libcoap secure emptySession chunks = some (svritem, events)
    ∧ svritem.data = none
    ∧ events.filterMap TcpEvent.message = messages
    ∧ ∀ copy, TcpEvent.copied copy ∈ events → copy.Inside

def NoCutAfterFirstByte (messages chunks : List (List UInt8)) : Prop :=
  ∀ before after : List (List UInt8), chunks = before ++ after → ∀ done, done <+: messages →
    before.flatten.length ≠ done.flatten.length + 1

/-- **Framing does not depend on the chunks** exactly as long as none of them ends one byte into
a message. -/
theorem chunksExact_iff {libcoap : TcpHeader} (hlib : libcoap.Encodes) (secure : Bool)
    (messages : List (List UInt8)) (hmessages : ∀ message ∈ messages, WellFormedMessage message)
    (chunks : List (List UInt8)) (hne : ∀ chunk ∈ chunks, chunk ≠ [])
    (hcut : chunks.flatten = messages.flatten) :
    ChunksExact libcoap secure messages chunks ↔ NoCutAfterFirstByte messages chunks := by
  have hframes : ∀ message ∈ messages, Framing.IsFrame messageComplete message :=
    fun message hmem => WellFormedMessage.isFrame (hmessages message hmem)
  have hnil : messageComplete [] = false := by decide
  obtain ⟨svritem, events, hrun, hreceived⟩ := receiveChunks_spec hlib secure chunks hne
    (collected_empty .unknown) hnil
  have hexact : ChunksExact libcoap secure messages chunks
      ↔ frame messageComplete [] (Framing.stutteredAll messageComplete [] chunks)
        = ⟨messages, []⟩ := by
    have hempty : svritem.data = none
        ↔ (frame messageComplete []
            (Framing.stutteredAll messageComplete [] chunks)).rest = [] := by
      rw [hreceived.collected.data]
      split
      · next h => exact iff_of_true rfl h
      · next h => exact iff_of_false nofun h
    constructor
    · rintro ⟨svritem', events', hrun', hdata, hpasses, -⟩
      obtain ⟨rfl, rfl⟩ := Prod.mk.inj (Option.some.inj (hrun.symm.trans hrun'))
      rw [hreceived.passes] at hpasses
      exact Framing.Framed.ext hpasses (hempty.mp hdata)
    · intro hall
      refine ⟨svritem, events, hrun, hempty.mpr (by rw [hall]), ?_, hreceived.inside⟩
      rw [hreceived.passes, hall]
  rw [hexact, Framing.stuttered_exact_iff messageComplete messages hframes chunks hcut,
    Framing.clean_iff]
  -- Where the chunks end, in terms of the messages before.
  have hplace : ∀ before after : List (List UInt8), chunks = before ++ after →
      ((frame messageComplete [] before.flatten).rest.length = 1
        ↔ ∃ done, done <+: messages ∧ before.flatten.length = done.flatten.length + 1) := by
    intro before after hsplit
    refine Framing.rest_length_one_iff messageComplete messages hframes messageComplete_single
      before.flatten ⟨after.flatten, ?_⟩
    rw [← hcut, hsplit, flatten_append]
  constructor
  · intro hclean before after hsplit done hdone hlength
    have hbefore : before ≠ [] := by
      rintro rfl
      rw [flatten_nil, length_nil] at hlength
      omega
    exact hclean before after hbefore hsplit
      ((hplace before after hsplit).mpr ⟨done, hdone, hlength⟩)
  · intro hall before after _ hsplit hone
    obtain ⟨done, hdone, hlength⟩ := (hplace before after hsplit).mp hone
    exact hall before after hsplit done hdone hlength

/-! ## A reader of headers -/

def sampleHeader : TcpHeader where
  typeFromInitbyte := fun length =>
    if length < 13 then .tcp
    else if length = 13 then .tcp8bit
    else if length = 14 then .tcp16bit
    else .tcp32bit
  lengthForTransport := fun transport =>
    match transport with
    | .udp => 4
    | .tcp => 2
    | .tcp8bit => 3
    | .tcp16bit => 4
    | .tcp32bit => 6
  lengthFromHeader := fun bytes _ => encodedLength bytes
  headerLength := encodedHeaderAndToken

lemma sampleHeader_encodes : sampleHeader.Encodes where
  header := by
    intro initbyte
    unfold encodedHeaderLength sampleHeader
    dsimp only
    by_cases hshort : initbyte >>> 4 < 13
    · simp [hshort]
    rw [if_neg hshort, if_neg hshort]
    by_cases h8 : initbyte >>> 4 = 13
    · simp [h8]
    rw [if_neg h8, if_neg h8]
    by_cases h16 : initbyte >>> 4 = 14
    · simp [h16]
    · simp [h16]
  length := fun _ _ => rfl
  token := fun _ _ => rfl

theorem byteByByte_desynchronises :
    WellFormedMessage [0x00, 0xE2]
      ∧ ¬ ChunksExact sampleHeader false [[0x00, 0xE2]] [[0x00], [0xE2]] := by
  refine ⟨by unfold WellFormedMessage; decide, ?_⟩
  rintro ⟨svritem, events, hrun, -, hpasses, -⟩
  have hresult : (receiveChunks sampleHeader false emptySession [[0x00], [0xE2]]).map
      (fun done => (done.2.filterMap TcpEvent.message).head?) = some (some [0x00, 0x00]) := by
    decide
  rw [hrun, Option.map_some, hpasses] at hresult
  simp at hresult

theorem cutAfterHeader_exact : ChunksExact sampleHeader false [[0x11, 0x01, 0x0A, 0xB1]]
    [[0x11, 0x01], [0x0A, 0xB1]] :=
  (chunksExact_iff sampleHeader_encodes false [[0x11, 0x01, 0x0A, 0xB1]]
    (by
      intro message hmem
      rw [mem_singleton.mp hmem]
      unfold WellFormedMessage
      decide)
    [[0x11, 0x01], [0x0A, 0xB1]]
    (by
      intro chunk hmem
      rcases mem_cons.mp hmem with rfl | hmem
      · simp
      rw [mem_singleton.mp hmem]
      exact cons_ne_nil _ _)
    rfl).mpr (by
      intro before after hsplit done hdone hlength
      have hdone : done = [] ∨ done = [[0x11, 0x01, 0x0A, 0xB1]] := by
        rw [prefix_cons_iff] at hdone
        rcases hdone with h | ⟨t, h, ht⟩
        · exact .inl h
        rw [prefix_nil.mp ht] at h
        exact .inr h
      have hbefore : before = [] ∨ before = [[0x11, 0x01]]
          ∨ before = [[0x11, 0x01], [0x0A, 0xB1]] := by
        have hprefix : before <+: [[0x11, 0x01], [0x0A, 0xB1]] := ⟨after, hsplit.symm⟩
        rw [prefix_cons_iff] at hprefix
        rcases hprefix with h | ⟨t, h, ht⟩
        · exact .inl h
        rw [prefix_cons_iff] at ht
        rcases ht with h' | ⟨t', h', ht'⟩
        · rw [h'] at h
          exact .inr (.inl h)
        rw [prefix_nil.mp ht'] at h'
        rw [h'] at h
        exact .inr (.inr h)
      rcases hdone with rfl | rfl <;> rcases hbefore with rfl | rfl | rfl <;>
        exact absurd hlength (by decide))

end Iochibity.Comm
