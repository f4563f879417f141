/-
From `CAGeneratePDU` over a TCP connection to `CAGetInfoFromPDU`.
-/
import Iochibity.Coap.CodecRoundTrip
import Iochibity.Comm.TcpFraming

namespace Iochibity.Comm

open Coap Coap.PduCodec
open CoapWire (encode halves halves_toNat lengthExtension lengthNibble toNat_ofNat_byte)
open List

/-! ## What is written -/

/-- A message that the codec takes as it is. -/
structure Sendable (lib : Libcoap) (isSep : UInt8 → Bool) (m : OutgoingMessage) : Prop where
  splits : ∀ u, m.uri = some u → SplitsUri lib isSep u
  reset : m.type ≠ .reset
  total : (encode (m.wire lib isSep)).length ≤ PduCodec.uintMax
  fits : ∀ u, m.uri = some u → FitsUriBuffer isSep u
  payloadVersion : TwoByteVersion m.payloadFormat m.payloadVersion
  acceptVersion : TwoByteVersion m.acceptFormat m.acceptVersion

/-- What is written for the messages, those that are refused left out. -/
def written (lib : Libcoap) (ms : List OutgoingMessage) : List (List UInt8) :=
  ms.filterMap (fun m => (caGeneratePDU lib m.code m.info).map lib.bytes)

/-- What the receiver makes of the bytes is the message. -/
def ReadAs (lib : Libcoap) (gChproxyUri : List UInt8) (isSep : UInt8 → Bool)
    (m : OutgoingMessage) (bytes : List UInt8) : Prop :=
  ∃ pdu code info, caParsePDU lib bytes = some pdu
    ∧ PduOptions.caGetInfoFromPDU lib.base gChproxyUri true pdu = .ok code info
    ∧ HandedOver lib (m.uri.map (ResourceUri.rejoined isSep)) (keptValue lib) m code info

lemma messageComplete_encode {m : CoapWire.Message} (h : m.WellFormed) :
    WellFormedMessage (encode m) := by
  have htoken := h.token_le
  have hbody := h.body_lt
  have hnibble := CoapWire.lengthNibble_lt m.body.length
  have hfirst := halves_toNat hnibble (show m.token.length < 16 by omega)
  have hhigh : halves (lengthNibble m.body.length) m.token.length >>> 4
      = UInt8.ofNat (lengthNibble m.body.length) := by
    rw [← UInt8.toNat_inj, toNat_ofNat_byte (by omega)]
    simp [hfirst, Nat.shiftRight_eq_div_pow]
    omega
  have hlow : (halves (lengthNibble m.body.length) m.token.length &&& 15).toNat
      = m.token.length := by
    simp [hfirst, Nat.and_two_pow_sub_one_eq_mod _ 4]
    omega
  rw [WellFormedMessage, messageComplete_iff, CoapWire.length_encode, encodedTotal,
    encodedHeaderAndToken, encodedHeaderLength, encodedLength, encode, headD_cons, hhigh, hlow,
    CoapWire.headerSize]
  unfold lengthNibble lengthExtension
  generalize m.body.length = n at *
  by_cases h1 : n < 13
  · have hshort : UInt8.ofNat n < 13 := by rwa [UInt8.lt_iff_toNat_lt, toNat_ofNat_byte (by omega)]
    rw [if_pos h1, if_pos h1, if_pos hshort, if_pos hshort, toNat_ofNat_byte (by omega), length_nil]
    omega
  by_cases h2 : n < 269
  · simp [if_neg h1, if_pos h2, byteAt]
    omega
  by_cases h3 : n < 65805
  · simp [if_neg h1, if_neg h2, if_pos h3, byteAt]
    omega
  · simp [if_neg h1, if_neg h2, if_neg h3, byteAt]
    omega

variable {libcoap : TcpHeader} {lib : Libcoap} {isSep : UInt8 → Bool}
  {Holds : lib.Buf → PduParts → Prop}

lemma written_eq (hlib : lib.FollowsRfc Holds) (ms : List OutgoingMessage)
    (hms : ∀ m ∈ ms, Sendable lib isSep m) :
    written lib ms = ms.map (fun m => encode (m.wire lib isSep)) := by
  induction ms with
  | nil => rfl
  | cons m ms ih =>
    obtain ⟨hm, hrest⟩ := forall_mem_cons.mp hms
    obtain ⟨buf, hbuf, hbytes⟩ := caGeneratePDU_ok hlib m hm.reset hm.splits hm.fits hm.total
    rw [map_cons, ← ih hrest, ← hbytes, written, filterMap_cons, hbuf]
    rfl

lemma readAs_encode (hlib : lib.FollowsRfc Holds) (gChproxyUri : List UInt8)
    {m : OutgoingMessage} (h : Sendable lib isSep m) :
    ReadAs lib gChproxyUri isSep m (encode (m.wire lib isSep)) := by
  obtain ⟨pdu, hparse, hpdu⟩ := caParsePDU_ok hlib m h.fits h.total
  obtain ⟨code, info, hrun, hgiven⟩ := handedOver hlib m (fun u huri => (h.splits u huri).separator)
    (fun u huri => (h.fits u huri).path_ne) h.payloadVersion h.acceptVersion gChproxyUri hpdu
  exact ⟨pdu, code, info, hparse, hrun, hgiven⟩

/-- **From encoder to decoder.** Messages that are written one behind the other to a connection,
and come in chunks of which none ends one byte into a message, are handed over as they were,
every one and in order, and nothing of them stays in the session. -/
theorem written_handedOver (hlibcoap : libcoap.Encodes) (hlib : lib.FollowsRfc Holds)
    (gChproxyUri : List UInt8) (secure : Bool) {ms : List OutgoingMessage}
    (hms : ∀ m ∈ ms, Sendable lib isSep m) {chunks : List (List UInt8)}
    (hne : ∀ chunk ∈ chunks, chunk ≠ []) (hchunks : chunks.flatten = (written lib ms).flatten)
    (hcut : NoCutAfterFirstByte (written lib ms) chunks) :
    ∃ svritem events, receiveChunks libcoap secure emptySession chunks = some (svritem, events)
      ∧ svritem.data = none
      ∧ List.Forall₂ (ReadAs lib gChproxyUri isSep) ms (events.filterMap TcpEvent.message) := by
  have hframes : ∀ bytes ∈ written lib ms, Framing.IsFrame messageComplete bytes := by
    rw [written_eq hlib ms hms, forall_mem_map]
    exact fun m hm => (messageComplete_encode
      (wire_wellFormed hlib m (hms m hm).fits (hms m hm).total)).isFrame
  have hclean : Framing.Clean messageComplete [] chunks := by
    refine (Framing.clean_iff messageComplete _ _).mpr fun before after _ hsplit hone => ?_
    obtain ⟨done, hdone, hlength⟩ := (Framing.rest_length_one_iff messageComplete _ hframes
      messageComplete_single before.flatten
      ⟨after.flatten, by rw [← hchunks, hsplit, flatten_append]⟩).mp hone
    exact hcut before after hsplit done hdone hlength
  obtain ⟨svritem, events, hrun, hreceived⟩ := receiveChunks_spec hlibcoap secure chunks hne
    (collected_empty .unknown) (by decide)
  have hexact := (Framing.stuttered_exact_iff messageComplete _ hframes chunks hchunks).mpr hclean
  refine ⟨svritem, events, hrun, ?_, ?_⟩
  · rw [hreceived.collected.data, hexact]
    rfl
  · rw [hreceived.passes, hexact, written_eq hlib ms hms, forall₂_map_right_iff, forall₂_same]
    exact fun m hm => readAs_encode hlib gChproxyUri (hms m hm)

theorem sampleMessage_handedOver :
    ∃ svritem events, receiveChunks sampleHeader false emptySession
        [(written rfcLibcoap [sampleMessage]).flatten] = some (svritem, events)
      ∧ svritem.data = none
      ∧ List.Forall₂ (ReadAs rfcLibcoap [] isQuerySeparator) [sampleMessage]
          (events.filterMap TcpEvent.message) := by
  have hms : ∀ m ∈ [sampleMessage], Sendable rfcLibcoap isQuerySeparator m :=
    forall_mem_singleton.mpr ⟨sampleMessage_splits, by decide, length_sampleMessage,
      sampleMessage_fits, fun _ => by decide, fun h => by cases h⟩
  have hwritten := written_eq rfcLibcoap_followsRfc [sampleMessage] hms
  rw [map_singleton] at hwritten
  have hsize := CoapWire.length_encode (sampleMessage.wire rfcLibcoap isQuerySeparator)
  rw [CoapWire.headerSize] at hsize
  apply written_handedOver sampleHeader_encodes rfcLibcoap_followsRfc [] false hms
  · simp [hwritten, encode]
  · simp
  · intro before after hsplit done hdone hlength
    rw [hwritten] at hsplit hdone
    rw [prefix_cons_iff] at hdone
    rcases append_eq_singleton_iff.mp hsplit.symm with ⟨rfl, -⟩ | ⟨rfl, -⟩
    · simp at hlength
    rcases hdone with rfl | ⟨rest, rfl, hrest⟩
    · simp at hlength
      omega
    · rw [prefix_nil.mp hrest] at hlength
      simp at hlength

end Iochibity.Comm
