/-
The list of peers of the secure adapter, `peerList` of `SslContext_t` in `ca_adapter_net_ssl.c`.
-/
import Iochibity.Coap.Message
import Iochibity.Lib.FirstMatch
import Iochibity.Lib.Buffer

namespace Iochibity.Sec.Ssl

open Coap (CAEndpoint)
open Buffer (splice)

section

/-! ## Peers -/

def caAdapterGattBtle : UInt32 := 2

def maxAddrStrSizeCa : ℕ := 66

/-- `SslEndPoint_t`: its endpoint, and what else is kept. -/
structure SslEndPoint (σ : Type) where
  endpoint : CAEndpoint
  data : σ

/-- What `GetSslPeer` compares. The port does not matter for `CA_ADAPTER_GATT_BTLE`. -/
def peerKey (endpoint : CAEndpoint) : UInt32 × List UInt8 × Option UInt16 :=
  (endpoint.adapter, endpoint.addr.bytes.take maxAddrStrSizeCa,
    if endpoint.adapter = caAdapterGattBtle then none else some endpoint.port)

/-- What `RemovePeerFromList` compares. -/
def removalKey (endpoint : CAEndpoint) : List UInt8 × UInt16 :=
  (endpoint.addr.bytes.take maxAddrStrSizeCa, endpoint.port)

section Peers

variable {σ : Type}

variable (peerList : List (SslEndPoint σ))

def getSslPeer (endpoint : CAEndpoint) : Option (SslEndPoint σ) :=
  FirstMatch.lookup (peerKey ·.endpoint) (peerKey endpoint) peerList

/-- A change of what is kept for the peer that `GetSslPeer` finds. -/
def changePeer (endpoint : CAEndpoint) (change : σ → σ) : List (SslEndPoint σ) :=
  FirstMatch.modify (peerKey ·.endpoint) (peerKey endpoint)
    (fun tep => { tep with data := change tep.data }) peerList

def removePeerFromList (endpoint : CAEndpoint) : List (SslEndPoint σ) :=
  FirstMatch.erase (removalKey ·.endpoint) (removalKey endpoint) peerList

def closeSslConnectionAll (transportType : UInt32) : List (SslEndPoint σ) :=
  peerList.filter (·.endpoint.adapter &&& transportType == 0)

end Peers

inductive SslState
  | helloRequest
  | clientHello
  | serverHello
  | serverCertificate
  | serverKeyExchange
  | certificateRequest
  | serverHelloDone
  | clientCertificate
  | clientKeyExchange
  | certificateVerify
  | clientChangeCipherSpec
  | clientFinished
  | serverChangeCipherSpec
  | serverFinished
  | flushBuffers
  | handshakeWrapup
  | handshakeOver
  | serverNewSessionTicket
  | serverHelloVerifyRequestSent
  deriving DecidableEq

open Coap (CAEndpoint)

/-- The suites of `tlsCipher`, and the rest. -/
inductive CipherSuite
  | rsaWithAes256CbcSha256
  | rsaWithAes128GcmSha256
  | ecdheEcdsaWithAes128GcmSha256
  | ecdheEcdsaWithAes128Ccm8
  | ecdheEcdsaWithAes128Ccm
  | ecdheEcdsaWithAes128CbcSha256
  | ecdheEcdsaWithAes256CbcSha384
  | ecdheEcdsaWithAes256GcmSha384
  | ecdhePskWithAes128CbcSha256
  | ecdheRsaWithAes128CbcSha256
  | ecdhAnonWithAes128CbcSha256
  | other
  deriving DecidableEq

def keyLengths : CipherSuite → ℕ × ℕ × ℕ
  | .ecdhAnonWithAes128CbcSha256 | .ecdhePskWithAes128CbcSha256
  | .ecdheRsaWithAes128CbcSha256 | .ecdheEcdsaWithAes128CbcSha256 => (32, 16, 0)
  | .ecdheEcdsaWithAes128Ccm | .ecdheEcdsaWithAes128Ccm8 => (0, 16, 4)
  | .ecdheEcdsaWithAes128GcmSha256 => (32, 16, 12)
  | .rsaWithAes256CbcSha256 => (32, 32, 0)
  | .ecdheEcdsaWithAes256CbcSha384 => (48, 32, 0)
  | .ecdheEcdsaWithAes256GcmSha384 => (48, 32, 12)
  | .rsaWithAes128GcmSha256 => (32, 16, 12)
  | .other => (0, 0, 0)

def keyBlockLen (selectedCipher : CipherSuite) : ℕ :=
  let (macKeyLen, keySize, ivSize) := keyLengths selectedCipher
  2 * (macKeyLen + keySize + ivSize)

/-! ## The expansion -/

def intMax : ℕ := 2147483647

abbrev Digest := Vector UInt8 32

section Expansion

variable (hmac : List UInt8 → List UInt8 → Digest)

/-- The loop of `pHash`: what it writes, and `A` after it. The condition lets it run once for each
digest that fits. -/
def pHashLoop (key text : List UInt8) : ℕ → Digest → List UInt8 × Digest
  | 0, a => ([], a)
  | rounds + 1, a =>
    let tmp := hmac key (a.toList ++ text)
    let (buf, last) := pHashLoop key text rounds (hmac key a.toList)
    (tmp.toList ++ buf, last)

def pHash (key label random1 random2 : List UInt8) (bufLen : ℕ) : Option (List UInt8) :=
  if intMax < bufLen then none
  else
    let text := label ++ random1 ++ random2
    let (buf, a) := pHashLoop hmac key text (bufLen / 32) (hmac key text)
    if bufLen % 32 ≠ 0 then
      some (buf ++ (hmac key (a.toList ++ text)).toList.take (bufLen - buf.length))
    else some buf

/-- `"key expansion"`. -/
def lab : List UInt8 :=
  [0x6b, 0x65, 0x79, 0x20, 0x65, 0x78, 0x70, 0x61, 0x6e, 0x73, 0x69, 0x6f, 0x6e]

def randomLen : ℕ := 32

/-- What `CAsslGenerateOwnerPsk` is given: the label, the identities and the length. -/
structure OwnerPskArgs where
  label : List UInt8
  rsrcServerDeviceId : List UInt8
  provServerDeviceId : List UInt8
  ownerPskSize : ℕ

/-- `CAsslGenerateOwnerPsk` from a secret, the random values and the length of the block on. A block
without bytes is not allocated. -/
def ownerPskOf (master : Vector UInt8 48) (random : Vector UInt8 64) (blockLen : ℕ)
    (args : OwnerPskArgs) : Option (List UInt8) :=
  if blockLen = 0 then none
  else
    (pHash hmac master.toList lab (random.toList.drop randomLen) (random.toList.take randomLen)
      blockLen).bind fun keyblock =>
        pHash hmac keyblock args.label args.rsrcServerDeviceId args.provServerDeviceId
          args.ownerPskSize

end Expansion

/-- What mbedTLS shows of a session: `state`, `ciphersuite` and `master` of `session_negotiate`, and
`randbytes` of `handshake`. -/
structure SslView where
  state : SslState
  ciphersuite : CipherSuite
  master : Vector UInt8 48
  randbytes : Vector UInt8 64

def SslView.setUp : SslView :=
  ⟨.helloRequest, .other, Vector.replicate 48 0, Vector.replicate 64 0⟩

/-- What was shown of a session, and whether the loop of `CAdecryptSsl` got to look at it. -/
structure Shown where
  view : SslView
  looked : Bool

structure Session where
  ssl : SslView
  master : Vector UInt8 48
  random : Vector UInt8 64
  shown : List Shown

def Session.new : Session :=
  ⟨.setUp, Vector.replicate 48 0, Vector.replicate 64 0, []⟩

structure SslContext where
  peerList : List (SslEndPoint Session)
  selectedCipher : CipherSuite
  taken : List SslView

def SslContext.init : SslContext := ⟨[], .other, []⟩

def caSslGenerateOwnerPsk (hmac : List UInt8 → List UInt8 → Digest) (context : SslContext)
    (endpoint : CAEndpoint) (args : OwnerPskArgs) : Option (List UInt8) :=
  (getSslPeer context.peerList endpoint).bind fun tep =>
    ownerPskOf hmac tep.data.master tep.data.random (keyBlockLen context.selectedCipher) args

/-! ## Handshakes -/

/-- How a step of a handshake ends: nothing more to read, a check that removes the peer or only
returns, or none of these. -/
inductive Outcome
  | eof
  | closed
  | rejected
  | passed
  deriving DecidableEq

/-- A step of `mbedtls_ssl_handshake_step`: what it shows, and how the checks behind it end. -/
structure HandshakeStep where
  ssl : SslView
  outcome : Outcome

def Session.show (session : Session) (ssl : SslView) (looked : Bool) : Session :=
  { session with ssl := ssl, shown := session.shown ++ [⟨ssl, looked⟩] }

def Session.copy (session : Session) : Session :=
  { session with
    master := if session.ssl.state = .clientChangeCipherSpec then session.ssl.master
      else session.master
    random := if session.ssl.state = .clientKeyExchange then session.ssl.randbytes
      else session.random }

variable (context : SslContext) (endpoint : CAEndpoint)

def SslContext.show (ssl : SslView) (looked : Bool) : SslContext :=
  { context with
    peerList := changePeer context.peerList endpoint (·.show ssl looked) }

def SslContext.copy (ssl : SslView) : SslContext :=
  { peerList := changePeer context.peerList endpoint (fun session => (session.show ssl true).copy)
    selectedCipher := if ssl.state = .clientChangeCipherSpec then ssl.ciphersuite
      else context.selectedCipher
    taken := if ssl.state = .clientChangeCipherSpec then context.taken ++ [ssl]
      else context.taken }

def SslContext.remove : SslContext :=
  { context with peerList := removePeerFromList context.peerList endpoint }

def SslContext.add : SslContext :=
  { context with peerList := context.peerList ++ [⟨endpoint, .new⟩] }

/-- The loop of `CAdecryptSsl`. -/
def decryptLoop (endpoint : CAEndpoint) : SslContext → List HandshakeStep → SslContext
  | context, [] => context
  | context, step :: rest =>
    match getSslPeer context.peerList endpoint with
    | none => context
    | some peer =>
      if peer.data.ssl.state = .handshakeOver then context
      else
        match step.outcome with
        | .eof => context.show endpoint step.ssl false
        | .closed => (context.show endpoint step.ssl false).remove peer.endpoint
        | .rejected => context.show endpoint step.ssl false
        | .passed => decryptLoop endpoint (context.copy endpoint step.ssl) rest

def initiateLoop (endpoint : CAEndpoint) : SslContext → List HandshakeStep → SslContext
  | context, [] => context
  | context, step :: rest =>
    match step.outcome with
    | .closed => (context.show endpoint step.ssl false).remove endpoint
    | .passed =>
      match step.ssl.state with
      | .handshakeOver | .serverNewSessionTicket | .serverHelloVerifyRequestSent =>
        context.show endpoint step.ssl false
      | _ => initiateLoop endpoint (context.show endpoint step.ssl false) rest
    | _ => context.show endpoint step.ssl false

inductive Event
  /-- `CAdecryptSsl`. -/
  | decrypt (endpoint : CAEndpoint) (steps : List HandshakeStep)
  /-- `CAencryptSsl` or `CAinitiateSslHandshake` where there is no peer. -/
  | initiate (endpoint : CAEndpoint) (steps : List HandshakeStep)
  /-- `StartRetransmit` for a peer. -/
  | retransmit (endpoint : CAEndpoint) (step : HandshakeStep)
  /-- `RemovePeerFromList`, for `CAcloseSslConnection` and where reading or writing fails. -/
  | close (endpoint : CAEndpoint)
  /-- `CAcloseSslConnectionAll`. -/
  | closeAll (transportType : UInt32)

def happen (context : SslContext) : Event → SslContext
  | .decrypt endpoint steps =>
    match getSslPeer context.peerList endpoint with
    | none => decryptLoop endpoint (context.add endpoint) steps
    | some _ => decryptLoop endpoint context steps
  | .initiate endpoint steps =>
    match getSslPeer context.peerList endpoint with
    | none => initiateLoop endpoint (context.add endpoint) steps
    | some _ => context
  | .retransmit endpoint step =>
    match getSslPeer context.peerList endpoint with
    | none => context
    | some peer =>
      if peer.data.ssl.state = .handshakeOver then context
      else
        let context := context.show endpoint step.ssl false
        if step.outcome = .closed then context.remove peer.endpoint else context
  | .close endpoint =>
    match getSslPeer context.peerList endpoint with
    | none => context
    | some peer => context.remove peer.endpoint
  | .closeAll transportType =>
    { context with peerList := closeSslConnectionAll context.peerList transportType }

def runEvents (events : List Event) : SslContext := events.foldl happen .init

end

/-- A context between `mbedtls_md_hmac_starts` and `mbedtls_md_hmac_finish`: its key and what was
hashed; `none` outside. -/
structure HmacContext where
  key : List UInt8
  input : Option (List UInt8)

namespace HmacContext

/-- `mbedtls_md_init` and `mbedtls_md_setup`. -/
def setUp : HmacContext := ⟨[], none⟩

def starts (_ : HmacContext) (key : List UInt8) : HmacContext := ⟨key, some []⟩

def reset (c : HmacContext) : HmacContext := { c with input := some [] }

def update (c : HmacContext) (data : List UInt8) : HmacContext :=
  { c with input := c.input.map (· ++ data) }

/-- `mbedtls_md_hmac_finish`; what a context gives that was not started again is unknown. -/
def finish (hmac : List UInt8 → List UInt8 → Digest) (c : HmacContext) :
    Option (Digest × HmacContext) :=
  c.input.map fun input => (hmac c.key input, { c with input := none })

end HmacContext

/-- The variables of `pHash`: its contexts, `A`, the memory with the buffer and `len`. -/
structure ExpansionState where
  hmacA : HmacContext
  hmacP : HmacContext
  a : Digest
  mem : List UInt8
  len : ℕ

section

variable (hmac : List UInt8 → List UInt8 → Digest) (key label random1 random2 : List UInt8)
  (start bufLen : ℕ)

/-- The calls on `hmacP` that fill `tmp`. -/
def fillTmp (s : ExpansionState) : Option (Digest × HmacContext) :=
  (((((s.hmacP.reset.starts key).update s.a.toList).update label).update random1).update
    random2).finish hmac

/-- The loop, on the buffer at `start`. -/
def expansionLoop (s : ExpansionState) : Option ExpansionState :=
  if s.len + 32 ≤ bufLen then
    (fillTmp hmac key label random1 random2 s).bind fun (tmp, hmacP) =>
      (((s.hmacA.reset.starts key).update s.a.toList).finish hmac).bind fun (a, hmacA) =>
        expansionLoop ⟨hmacA, hmacP, a, splice s.mem (start + s.len) tmp.toList, s.len + 32⟩
  else some s
termination_by bufLen - s.len

/-- `pHash` on the memory `mem`: the memory after it, and what is returned. -/
def pHashRun (mem : List UInt8) : Option (List UInt8 × ℤ) :=
  if intMax < bufLen then some (mem, -1)
  else do
    let (a, hmacA) ← ((((HmacContext.setUp.starts key).update label).update random1).update
      random2).finish hmac
    let s ← expansionLoop hmac key label random1 random2 start bufLen
      ⟨hmacA, HmacContext.setUp.starts key, a, mem, 0⟩
    if bufLen % 32 ≠ 0 then
      let (tmp, _) ← fillTmp hmac key label random1 random2 s
      return (splice s.mem (start + s.len) (tmp.toList.take (bufLen - s.len)), bufLen)
    return (s.mem, bufLen)

/-! ## The stream -/

/-- `A(i + 1)`. -/
def chainValue (seed : List UInt8) : ℕ → Digest
  | 0 => hmac key seed
  | i + 1 => hmac key (chainValue seed i).toList

def streamByte (seed : List UInt8) (j : ℕ) : UInt8 :=
  (hmac key ((chainValue hmac key seed (j / 32)).toList ++ seed)).get
    ⟨j % 32, Nat.mod_lt _ (by decide)⟩

/-- The first `n` bytes of P_SHA256. -/
def expansion (seed : List UInt8) (n : ℕ) : List UInt8 :=
  (List.range n).map (streamByte hmac key seed)

lemma expansion_block (seed : List UInt8) (i : ℕ) {r : ℕ} (hr : r ≤ 32) :
    expansion hmac key seed (32 * i + r) = expansion hmac key seed (32 * i)
      ++ (hmac key ((chainValue hmac key seed i).toList ++ seed)).toList.take r := by
  rw [expansion, List.range_add, List.map_append, List.map_map]
  congr 1
  apply List.ext_getElem
  · simp [hr]
  · intro k hk _
    have hlt : k < 32 := by
      rw [List.length_map, List.length_range] at hk
      omega
    have hdiv : (32 * i + k) / 32 = i := by omega
    have hmod : (32 * i + k) % 32 = k := by omega
    simp only [streamByte, List.getElem_map, List.getElem_range, List.getElem_take, hdiv, hmod,
      Function.comp_apply]
    rfl

lemma pHashLoop_expansion (seed : List UInt8) (i rounds : ℕ) :
    expansion hmac key seed (32 * i)
        ++ (pHashLoop hmac key seed rounds (chainValue hmac key seed i)).1
      = expansion hmac key seed (32 * (i + rounds)) ∧
      (pHashLoop hmac key seed rounds (chainValue hmac key seed i)).2
        = chainValue hmac key seed (i + rounds) := by
  induction rounds generalizing i with
  | zero => exact ⟨List.append_nil _, rfl⟩
  | succ rounds ih =>
    obtain ⟨hout, hlast⟩ := ih (i + 1)
    have hblock := expansion_block hmac key seed i le_rfl
    rw [List.take_of_length_le (Vector.length_toList).le] at hblock
    rw [Nat.add_right_comm] at hout hlast
    refine ⟨?_, hlast⟩
    rw [pHashLoop, ← List.append_assoc, ← hblock]
    exact hout

lemma pHash_eq_expansion (h : bufLen ≤ intMax) :
    pHash hmac key label random1 random2 bufLen =
      some (expansion hmac key (label ++ random1 ++ random2) bufLen) := by
  obtain ⟨hout, hlast⟩ :=
    pHashLoop_expansion hmac key (label ++ random1 ++ random2) 0 (bufLen / 32)
  have hdiv := Nat.div_add_mod bufLen 32
  rw [Nat.zero_add] at hout hlast
  rw [pHash, if_neg (Nat.not_lt.2 h)]
  dsimp only [chainValue] at hout hlast ⊢
  change (pHashLoop hmac key _ _ _).1 = _ at hout
  rw [hout, hlast]
  split
  · next hmod =>
    have hlen : (expansion hmac key (label ++ random1 ++ random2) (32 * (bufLen / 32))).length =
        32 * (bufLen / 32) := by simp [expansion]
    have hblock := expansion_block hmac key (label ++ random1 ++ random2) (bufLen / 32)
      (Nat.mod_lt bufLen (by decide : 32 > 0)).le
    rw [hdiv] at hblock
    rw [hlen, hblock]
    congr 3
    omega
  · next hmod =>
    congr 2
    omega

/-! ## The contexts -/

lemma fillTmp_eq (s : ExpansionState) :
    fillTmp hmac key label random1 random2 s =
      some (hmac key (s.a.toList ++ (label ++ random1 ++ random2)), ⟨key, none⟩) := by
  simp [fillTmp, HmacContext.starts, HmacContext.update, HmacContext.finish]

lemma expansionLoop_eq {rounds : ℕ} (s : ExpansionState) (hlen : s.len ≤ bufLen)
    (hrounds : (bufLen - s.len) / 32 = rounds) (hmem : start + bufLen ≤ s.mem.length) :
    ∃ hmacA hmacP, expansionLoop hmac key label random1 random2 start bufLen s = some
      ⟨hmacA, hmacP, (pHashLoop hmac key (label ++ random1 ++ random2) rounds s.a).2,
        splice s.mem (start + s.len)
          (pHashLoop hmac key (label ++ random1 ++ random2) rounds s.a).1,
        s.len + 32 * rounds⟩ := by
  induction rounds generalizing s with
  | zero =>
    rw [expansionLoop, if_neg (by omega), pHashLoop, Buffer.splice_nil]
    exact ⟨_, _, rfl⟩
  | succ rounds ih =>
    have hfit : s.len + 32 ≤ bufLen := by omega
    rw [expansionLoop, if_pos hfit, fillTmp_eq, Option.bind_some]
    have hnext : ((s.hmacA.reset.starts key).update s.a.toList).finish hmac =
        some (hmac key s.a.toList, ⟨key, none⟩) := rfl
    simp only [hnext, Option.bind_some]
    generalize htmp : hmac key (s.a.toList ++ (label ++ random1 ++ random2)) = tmp
    have hsplice : (splice s.mem (start + s.len) tmp.toList).length = s.mem.length :=
      Buffer.length_splice (by rw [Vector.length_toList]; omega)
    obtain ⟨hmacA, hmacP, heq⟩ := ih ⟨⟨key, none⟩, ⟨key, none⟩, hmac key s.a.toList,
      splice s.mem (start + s.len) tmp.toList, s.len + 32⟩ hfit (by dsimp only; omega)
      (by rw [hsplice]; exact hmem)
    refine ⟨hmacA, hmacP, heq.trans ?_⟩
    have hjoin (ws : List UInt8) : splice (splice s.mem (start + s.len) tmp.toList)
            (start + s.len + tmp.toList.length) ws
          = splice s.mem (start + s.len) (tmp.toList ++ ws) :=
      Buffer.splice_splice (by omega)
    simp only [Vector.length_toList, Nat.add_assoc] at hjoin
    simp only [pHashLoop, htmp, Nat.add_assoc, hjoin]
    congr 2
    omega

lemma length_pHashLoop (seed : List UInt8) (rounds : ℕ) (a : Digest) :
    (pHashLoop hmac key seed rounds a).1.length = 32 * rounds := by
  induction rounds generalizing a with
  | zero => rfl
  | succ rounds ih =>
    rw [pHashLoop, List.length_append, Vector.length_toList, ih]
    omega

lemma pHashRun_eq {mem : List UInt8} (h : bufLen ≤ intMax) (hmem : start + bufLen ≤ mem.length) :
    pHashRun hmac key label random1 random2 start bufLen mem =
      (pHash hmac key label random1 random2 bufLen).map fun out =>
        (splice mem start out, (bufLen : ℤ)) := by
  obtain ⟨hmacA, hmacP, hloop⟩ := expansionLoop_eq hmac key label random1 random2 start bufLen
    ⟨⟨key, none⟩, HmacContext.setUp.starts key, hmac key (label ++ random1 ++ random2), mem, 0⟩
    (Nat.zero_le _) rfl hmem
  have hfirst : ((((HmacContext.setUp.starts key).update label).update random1).update
      random2).finish hmac = some (hmac key (label ++ random1 ++ random2), ⟨key, none⟩) := rfl
  rw [pHashRun, if_neg (Nat.not_lt.2 h), pHash, if_neg (Nat.not_lt.2 h), hfirst]
  simp only [Option.bind_eq_bind, Option.bind_some, hloop, Nat.sub_zero, Nat.zero_add, Nat.add_zero]
  have hout := length_pHashLoop hmac key (label ++ random1 ++ random2) (bufLen / 32)
    (hmac key (label ++ random1 ++ random2))
  generalize pHashLoop hmac key _ _ _ = out at hout ⊢
  split
  · simp only [fillTmp_eq, Option.bind_some, Option.map_some]
    rw [← hout, Buffer.splice_splice (by omega)]
    rfl
  · rfl

/-- On a buffer of any length up to `INT_MAX` the stream is written, and nothing around the buffer;
a longer one is refused. The bytes for a shorter buffer start those for a longer one. -/
theorem pHashRun_stream :
    (∀ left buf right : List UInt8,
      pHashRun hmac key label random1 random2 left.length buf.length (left ++ buf ++ right) =
        if buf.length ≤ intMax then
          some (left ++ expansion hmac key (label ++ random1 ++ random2) buf.length ++ right,
            (buf.length : ℤ))
        else some (left ++ buf ++ right, -1)) ∧
      ∀ seed n more, expansion hmac key seed n <+: expansion hmac key seed (n + more) ∧
        (expansion hmac key seed n).length = n := by
  refine ⟨fun left buf right => ?_, fun seed n more => ⟨?_, ?_⟩⟩
  · split
    · next h =>
      rw [pHashRun_eq _ _ _ _ _ _ _ h (by simp), pHash_eq_expansion _ _ _ _ _ _ h]
      simp [splice, expansion]
    · next h => rw [pHashRun, if_pos (Nat.not_le.1 h)]
  · rw [expansion, expansion, List.range_add, List.map_append]
    exact List.prefix_append _ _
  · simp [expansion]

end

theorem pHashRun_refused :
    ¬ ∀ (hmac : List UInt8 → List UInt8 → Digest) (key label random1 random2 left buf right :
        List UInt8),
      pHashRun hmac key label random1 random2 left.length buf.length (left ++ buf ++ right) =
        some (left ++ expansion hmac key (label ++ random1 ++ random2) buf.length ++ right,
          (buf.length : ℤ)) := by
  intro h
  have hrun := h (fun _ _ => Vector.replicate 32 0) [] [] [] [] []
    (List.replicate (intMax + 1) 0) []
  rw [List.length_replicate, pHashRun, if_pos (Nat.lt_succ_self _)] at hrun
  have hret := congrArg Prod.snd (Option.some.inj hrun)
  exact absurd hret (by decide)

open List (append_cancel_left append_inj append_nil drop_left' filter_append filter_cons_of_neg
  filter_cons_of_pos filter_eq_nil_iff filter_nil foldl_append getLast?_concat getLast?_eq_none_iff
  length_replicate mem_append mem_cons_of_mem mem_cons_self mem_filter mem_map mem_of_getLast?
  mem_of_mem_filter mem_replicate mem_singleton not_mem_nil replicate_append_replicate
  take_append_drop take_replicate)
open Option

variable {context : SslContext} {b : UInt8} {session : Session}

def ownerKey (hmac : List UInt8 → List UInt8 → Digest) (master : Vector UInt8 48)
    (random : Vector UInt8 64) (cipher : CipherSuite) (args : OwnerPskArgs) :
    Option (List UInt8) :=
  ownerPskOf hmac master random (keyBlockLen cipher) args

structure Finished (session : Session) (master : Vector UInt8 48) (random : Vector UInt8 64)
    (cipher : CipherSuite) : Prop where
  handshake : session.ssl.state = .handshakeOver
  exchanged : ∃ s ∈ session.shown, s.view.state = .clientKeyExchange
  randbytes : ∀ s ∈ session.shown, s.view.state = .clientKeyExchange → s.view.randbytes = random
  changed : ∃ s ∈ session.shown, s.view.state = .clientChangeCipherSpec
  negotiated : ∀ s ∈ session.shown, s.view.state = .clientChangeCipherSpec →
    s.view.master = master ∧ s.view.ciphersuite = cipher
  offered : cipher ≠ .other

def Session.LookedAt (session : Session) (state : SslState) : Prop :=
  ∃ s ∈ session.shown, s.looked = true ∧ s.view.state = state

/-- **The key stands.** A peer starts with zeros, and these may be right by chance. -/
structure KeyStands (context : SslContext) (session : Session) (master : Vector UInt8 48)
    (random : Vector UInt8 64) (cipher : CipherSuite) : Prop where
  master : session.LookedAt .clientChangeCipherSpec ∨ master = Vector.replicate 48 0
  random : session.LookedAt .clientKeyExchange ∨ random = Vector.replicate 64 0
  /-- The last suite that was taken from any session asks for a block of the same length. -/
  suite : ∃ last, context.taken.getLast? = some last
    ∧ keyBlockLen last.ciphersuite = keyBlockLen cipher

section Expansion

variable {hmac : List UInt8 → List UInt8 → Digest}

lemma pHashLoop_of_const {key text : List UInt8}
    (h : ∀ a : Digest, hmac key (a.toList ++ text) = Vector.replicate 32 b) (rounds : ℕ)
    (a : Digest) :
    (pHashLoop hmac key text rounds a).1 = List.replicate (32 * rounds) b := by
  induction rounds generalizing a with
  | zero => rfl
  | succ rounds ih =>
    rw [pHashLoop, h a]
    dsimp only
    rw [ih, Vector.toList_replicate, replicate_append_replicate]
    congr 1
    omega

lemma pHash_of_const {key label random1 random2 : List UInt8} {b : UInt8} {bufLen : ℕ}
    (hlen : bufLen ≤ intMax) (h : ∀ a : Digest,
      hmac key (a.toList ++ (label ++ random1 ++ random2)) = Vector.replicate 32 b) :
    pHash hmac key label random1 random2 bufLen = some (List.replicate bufLen b) := by
  have hbuf := pHashLoop_of_const h (bufLen / 32) (hmac key (label ++ random1 ++ random2))
  rw [pHash, if_neg (Nat.not_lt.mpr hlen)]
  dsimp only
  rw [hbuf, length_replicate, h, Vector.toList_replicate, take_replicate,
    replicate_append_replicate]
  split_ifs with hmod
  · congr 2
    omega
  · congr 2
    omega

end Expansion

lemma keyBlockLen_pos {cipher : CipherSuite} (h : cipher ≠ .other) : keyBlockLen cipher ≠ 0 := by
  cases cipher <;> first | exact absurd rfl h | decide

lemma keyBlockLen_ne (cipher : CipherSuite) : keyBlockLen cipher ≠ 48 := by
  cases cipher <;> decide

lemma keyBlockLen_le (cipher : CipherSuite) : keyBlockLen cipher ≤ intMax := by
  cases cipher <;> decide

/-! ## A function that knows the right values -/

def seedOf (random : Vector UInt8 64) : List UInt8 :=
  lab ++ random.toList.drop randomLen ++ random.toList.take randomLen

lemma seedOf_injective : Function.Injective seedOf := by
  intro r r' h
  rw [seedOf, seedOf] at h
  have hlength : (lab ++ r.toList.drop randomLen).length
      = (lab ++ r'.toList.drop randomLen).length := by
    simp
  obtain ⟨hfront, htake⟩ := append_inj h hlength
  have hdrop := append_cancel_left hfront
  apply Vector.toList_inj.mp
  rw [← take_append_drop randomLen r.toList, htake, hdrop, take_append_drop]

/-- Ones for the right secret with the right seed, and for a block of ones of the right length;
zeros for the rest. -/
def knowing (master : Vector UInt8 48) (random : Vector UInt8 64) (blockLen : ℕ)
    (key text : List UInt8) : Digest :=
  if key = master.toList ∧ text.drop 32 = seedOf random ∨ key = List.replicate blockLen 1 then
    Vector.replicate 32 1
  else Vector.replicate 32 0

def oneByte : OwnerPskArgs := ⟨[], [], [], 1⟩

section Knowing

variable {master master' : Vector UInt8 48} {random random' : Vector UInt8 64} {n n' : ℕ}

lemma ownerPskOf_of_block {hmac : List UInt8 → List UInt8 → Digest} {c : UInt8} (hn : n' ≠ 0)
    (hle : n' ≤ intMax)
    (hblock : ∀ a : Digest,
      hmac master'.toList (a.toList ++ seedOf random') = Vector.replicate 32 b)
    (hkey : ∀ text, hmac (List.replicate n' b) text = Vector.replicate 32 c) :
    ownerPskOf hmac master' random' n' oneByte = some [c] := by
  rw [ownerPskOf, if_neg hn, pHash_of_const hle hblock, bind_some,
    pHash_of_const (by decide) (fun a => hkey _)]
  rfl

lemma knowing_right (hn : n ≠ 0) (hle : n ≤ intMax) :
    ownerPskOf (knowing master random n) master random n oneByte = some [1] := by
  refine ownerPskOf_of_block (b := 1) hn hle ?_ ?_
  · intro a
    rw [knowing, if_pos]
    refine .inl ⟨rfl, ?_⟩
    simp
  · intro text
    rw [knowing, if_pos (.inr rfl)]

lemma knowing_wrong (hne : n ≠ 48) (hne' : n' ≠ 48) (hle : n' ≤ intMax)
    (h : ownerPskOf (knowing master random n) master' random' n' oneByte = some [1]) :
    master' = master ∧ random' = random ∧ n' = n := by
  have hn' : n' ≠ 0 := by
    rintro rfl
    rw [ownerPskOf, if_pos rfl] at h
    exact absurd h.symm (some_ne_none _)
  have hmaster : master'.toList ≠ List.replicate n 1 := by
    intro heq
    have hlength := congrArg List.length heq
    rw [Vector.length_toList, length_replicate] at hlength
    exact hne hlength.symm
  have hreplicate : ∀ b : UInt8, List.replicate n' b ≠ master.toList := by
    intro b heq
    have hlength := congrArg List.length heq
    rw [Vector.length_toList, length_replicate] at hlength
    exact hne' hlength
  by_cases hsame : master' = master ∧ random' = random
  · obtain ⟨rfl, rfl⟩ := hsame
    refine ⟨rfl, rfl, ?_⟩
    by_contra hlen
    have hzero : ownerPskOf (knowing master' random' n) master' random' n' oneByte = some [0] := by
      refine ownerPskOf_of_block (b := 1) hn' hle ?_ ?_
      · intro a
        rw [knowing, if_pos]
        refine .inl ⟨rfl, ?_⟩
        simp
      · intro text
        rw [knowing, if_neg]
        rintro (⟨heq, -⟩ | heq)
        · exact hreplicate 1 heq
        · have hlength := congrArg List.length heq
          rw [length_replicate, length_replicate] at hlength
          exact hlen hlength
    rw [hzero] at h
    simp at h
  have hzero : ownerPskOf (knowing master random n) master' random' n' oneByte = some [0] := by
    refine ownerPskOf_of_block (b := 0) hn' hle ?_ ?_
    · intro a
      rw [knowing, if_neg]
      rintro (⟨heq, hseed⟩ | heq)
      · rw [drop_left' (Vector.length_toList)] at hseed
        exact hsame ⟨Vector.toList_inj.mp heq, seedOf_injective hseed⟩
      · exact hmaster heq
    · intro text
      rw [knowing, if_neg]
      rintro (⟨heq, -⟩ | heq)
      · exact hreplicate 0 heq
      · -- a block of zeros is none of ones, as it has a byte
        have hmem : (0 : UInt8) ∈ List.replicate n 1 := by
          rw [← heq]
          exact mem_replicate.mpr ⟨hn', rfl⟩
        exact absurd (mem_replicate.mp hmem).2 (by decide)
  rw [hzero] at h
  simp at h

lemma ownerPskOf_eq_iff (hn : n ≠ 0) (hne : n ≠ 48) (hle : n ≤ intMax) (hne' : n' ≠ 48)
    (hle' : n' ≤ intMax) :
    (∀ hmac args, ownerPskOf hmac master' random' n' args = ownerPskOf hmac master random n args)
      ↔ master' = master ∧ random' = random ∧ n' = n := by
  constructor
  · intro h
    refine knowing_wrong hne hne' hle' ?_
    rw [h (knowing master random n) oneByte]
    exact knowing_right hn hle
  · rintro ⟨rfl, rfl, rfl⟩ hmac args
    rfl

end Knowing

/-! ## What is kept -/

def Shown.lookedAt (state : SslState) (s : Shown) : Bool :=
  s.looked && decide (s.view.state = state)

def lastLooked (shown : List Shown) (state : SslState) : Option SslView :=
  ((shown.filter (Shown.lookedAt state)).getLast?).map Shown.view

lemma Shown.lookedAt_iff (state : SslState) (s : Shown) :
    s.lookedAt state = true ↔ s.looked = true ∧ s.view.state = state := by
  rw [Shown.lookedAt, Bool.and_eq_true, decide_eq_true_iff]

lemma lastLooked_append (shown : List Shown) (s : Shown) (state : SslState) :
    lastLooked (shown ++ [s]) state = if s.looked = true ∧ s.view.state = state then some s.view
        else lastLooked shown state := by
  rw [lastLooked, filter_append]
  by_cases h : s.looked = true ∧ s.view.state = state
  · have hyes := (s.lookedAt_iff state).mpr h
    rw [if_pos h, filter_cons_of_pos hyes, filter_nil, getLast?_concat, map_some]
  have hno : ¬ s.lookedAt state = true := fun hyes => h ((s.lookedAt_iff state).mp hyes)
  rw [if_neg h, filter_cons_of_neg hno, filter_nil, append_nil, lastLooked]

lemma lastLooked_mem {shown : List Shown} {state : SslState} {view : SslView}
    (h : lastLooked shown state = some view) :
    ∃ s ∈ shown, s.looked = true ∧ s.view.state = state ∧ s.view = view := by
  obtain ⟨s, hs, rfl⟩ := map_eq_some_iff.mp h
  obtain ⟨hmem, hlooked⟩ := mem_filter.mp (mem_of_getLast? hs)
  obtain ⟨hyes, hstate⟩ := (s.lookedAt_iff state).mp hlooked
  exact ⟨s, hmem, hyes, hstate, rfl⟩

lemma lastLooked_none {state : SslState}
    (h : lastLooked session.shown state = none) : ¬ session.LookedAt state := by
  rintro ⟨s, hs, hlooked, hstate⟩
  rw [lastLooked, map_eq_none_iff, getLast?_eq_none_iff, filter_eq_nil_iff] at h
  exact h s hs ((s.lookedAt_iff state).mpr ⟨hlooked, hstate⟩)

structure Session.Kept (session : Session) : Prop where
  master : session.master
    = ((lastLooked session.shown .clientChangeCipherSpec).map SslView.master).getD
      (Vector.replicate 48 0)
  random : session.random
    = ((lastLooked session.shown .clientKeyExchange).map SslView.randbytes).getD
      (Vector.replicate 64 0)

structure SslContext.Kept (context : SslContext) : Prop where
  peers : ∀ peer ∈ context.peerList, peer.data.Kept
  suite : context.selectedCipher = (context.taken.getLast?.map SslView.ciphersuite).getD .other

lemma Session.Kept.new : Session.new.Kept := ⟨rfl, rfl⟩

lemma Session.Kept.show (h : session.Kept) (ssl : SslView) :
    (session.show ssl false).Kept := by
  have hlast : ∀ state, lastLooked (session.show ssl false).shown state
      = lastLooked session.shown state := by
    intro state
    rw [Session.show, lastLooked_append, if_neg]
    exact fun hlooked => Bool.false_ne_true hlooked.1
  constructor
  · rw [hlast]
    exact h.master
  · rw [hlast]
    exact h.random

lemma Session.Kept.copy (h : session.Kept) (ssl : SslView) :
    (session.show ssl true).copy.Kept := by
  have hlast : ∀ state, lastLooked (session.show ssl true).copy.shown state
      = if ssl.state = state then some ssl else lastLooked session.shown state := by
    intro state
    rw [Session.copy, Session.show, lastLooked_append]
    by_cases hstate : ssl.state = state
    · rw [if_pos hstate, if_pos ⟨rfl, hstate⟩]
    · rw [if_neg hstate, if_neg (hstate ·.2)]
  constructor
  · rw [hlast, Session.copy, Session.show]
    by_cases hstate : ssl.state = .clientChangeCipherSpec
    · simp [if_pos hstate]
    simp only [if_neg hstate]
    exact h.master
  · rw [hlast, Session.copy, Session.show]
    by_cases hstate : ssl.state = .clientKeyExchange
    · simp [if_pos hstate]
    simp only [if_neg hstate]
    exact h.random

lemma SslContext.Kept.change (h : context.Kept) (endpoint : CAEndpoint)
    {change : Session → Session} (hchange : ∀ session, session.Kept → (change session).Kept) :
    ∀ peer ∈ changePeer context.peerList endpoint change, peer.data.Kept := by
  intro peer hpeer
  rcases FirstMatch.mem_modify hpeer with hmem | ⟨old, hold, rfl⟩
  · exact h.peers peer hmem
  · exact hchange old.data (h.peers old (FirstMatch.mem_of_lookup _ hold))

section Steps

variable {context : SslContext} (endpoint : CAEndpoint)

section

variable (h : context.Kept)
include h

lemma SslContext.Kept.show (ssl : SslView) : (context.show endpoint ssl false).Kept :=
  ⟨h.change endpoint (fun _ hsession => hsession.show ssl), h.suite⟩

lemma SslContext.Kept.copy (ssl : SslView) : (context.copy endpoint ssl).Kept := by
  refine ⟨h.change endpoint (fun _ hsession => hsession.copy ssl), ?_⟩
  rw [SslContext.copy]
  by_cases hstate : ssl.state = .clientChangeCipherSpec
  · simp [if_pos hstate]
  simp only [if_neg hstate]
  exact h.suite

lemma SslContext.Kept.remove : (context.remove endpoint).Kept :=
  ⟨fun peer hpeer => h.peers peer (FirstMatch.mem_of_mem_erase hpeer), h.suite⟩

lemma SslContext.Kept.add : (context.add endpoint).Kept := by
  refine ⟨fun peer hpeer => ?_, h.suite⟩
  rcases mem_append.mp hpeer with hmem | hmem
  · exact h.peers peer hmem
  rw [mem_singleton.mp hmem]
  exact Session.Kept.new

lemma SslContext.Kept.decryptLoop (steps : List HandshakeStep) :
    (decryptLoop endpoint context steps).Kept := by
  induction steps generalizing context with
  | nil => exact h
  | cons step rest ih =>
    rw [Ssl.decryptLoop]
    split
    · exact h
    split_ifs
    · exact h
    · split
      · exact h.show endpoint step.ssl
      · exact (h.show endpoint step.ssl).remove _
      · exact h.show endpoint step.ssl
      · exact ih (h.copy endpoint step.ssl)

lemma SslContext.Kept.initiateLoop (steps : List HandshakeStep) :
    (initiateLoop endpoint context steps).Kept := by
  induction steps generalizing context with
  | nil => exact h
  | cons step rest ih =>
    have hshow := h.show endpoint step.ssl
    rw [Ssl.initiateLoop]
    split
    · exact hshow.remove endpoint
    · split
      · exact hshow
      · exact hshow
      · exact hshow
      · exact ih hshow
    · exact hshow

end

end Steps

lemma SslContext.Kept.happen (h : context.Kept) (event : Event) :
    (happen context event).Kept := by
  cases event with
  | decrypt endpoint steps =>
    rw [Ssl.happen]
    split
    · exact (h.add endpoint).decryptLoop endpoint steps
    · exact h.decryptLoop endpoint steps
  | initiate endpoint steps =>
    rw [Ssl.happen]
    split
    · exact (h.add endpoint).initiateLoop endpoint steps
    · exact h
  | retransmit endpoint step =>
    have hshow := h.show endpoint step.ssl
    rw [Ssl.happen]
    split
    · exact h
    split_ifs
    · exact h
    · exact hshow.remove _
    · exact hshow
  | close endpoint =>
    rw [Ssl.happen]
    split
    · exact h
    · exact h.remove _
  | closeAll transportType =>
    exact ⟨fun peer hpeer => h.peers peer (mem_of_mem_filter hpeer), h.suite⟩

lemma runEvents_kept (events : List Event) : (runEvents events).Kept := by
  induction events using List.reverseRecOn with
  | nil => exact ⟨fun peer hpeer => absurd hpeer not_mem_nil, rfl⟩
  | append_singleton events event ih =>
    rw [runEvents, foldl_append]
    exact SslContext.Kept.happen ih event

/-! ## Whose the key is -/

section Stands

variable {session : Session} {master : Vector UInt8 48} {random : Vector UInt8 64}
  {cipher : CipherSuite}

lemma Finished.master_iff (h : Finished session master random cipher) (hkept : session.Kept) :
    session.master = master
      ↔ session.LookedAt .clientChangeCipherSpec ∨ master = Vector.replicate 48 0 := by
  rw [hkept.master]
  cases hlast : lastLooked session.shown .clientChangeCipherSpec with
  | none =>
    rw [or_iff_right (lastLooked_none hlast)]
    exact eq_comm
  | some view =>
    obtain ⟨s, hs, hlooked, hstate, rfl⟩ := lastLooked_mem hlast
    exact iff_of_true (h.negotiated s hs hstate).1 (.inl ⟨s, hs, hlooked, hstate⟩)

lemma Finished.random_iff (h : Finished session master random cipher) (hkept : session.Kept) :
    session.random = random
      ↔ session.LookedAt .clientKeyExchange ∨ random = Vector.replicate 64 0 := by
  rw [hkept.random]
  cases hlast : lastLooked session.shown .clientKeyExchange with
  | none =>
    rw [or_iff_right (lastLooked_none hlast)]
    exact eq_comm
  | some view =>
    obtain ⟨s, hs, hlooked, hstate, rfl⟩ := lastLooked_mem hlast
    exact iff_of_true (h.randbytes s hs hstate) (.inl ⟨s, hs, hlooked, hstate⟩)

lemma SslContext.Kept.suite_iff (h : context.Kept) (hcipher : cipher ≠ .other) :
    keyBlockLen context.selectedCipher = keyBlockLen cipher
      ↔ ∃ last, context.taken.getLast? = some last
        ∧ keyBlockLen last.ciphersuite = keyBlockLen cipher := by
  rw [h.suite]
  cases hlast : context.taken.getLast? with
  | none =>
    constructor
    · exact fun heq => absurd heq.symm (keyBlockLen_pos hcipher)
    · rintro ⟨last, hsome, -⟩
      exact absurd hsome.symm (some_ne_none last)
  | some last =>
    constructor
    · exact fun heq => ⟨last, rfl, heq⟩
    · rintro ⟨other, hother, heq⟩
      rwa [← some.inj hother] at heq

lemma generate_eq_iff {endpoint : CAEndpoint} {peer : SslEndPoint Session} (hkept : context.Kept)
    (hpeer : getSslPeer context.peerList endpoint = some peer)
    (h : Finished peer.data master random cipher) :
    (∀ hmac args, caSslGenerateOwnerPsk hmac context endpoint args
        = ownerKey hmac master random cipher args)
      ↔ KeyStands context peer.data master random cipher := by
  have hdata := hkept.peers peer (FirstMatch.mem_of_lookup _ hpeer)
  have hgenerate : ∀ hmac args, caSslGenerateOwnerPsk hmac context endpoint args
      = ownerPskOf hmac peer.data.master peer.data.random
        (keyBlockLen context.selectedCipher) args := by
    intro hmac args
    rw [caSslGenerateOwnerPsk, hpeer, bind_some]
  simp only [hgenerate, ownerKey]
  rw [ownerPskOf_eq_iff (keyBlockLen_pos h.offered) (keyBlockLen_ne _) (keyBlockLen_le _)
    (keyBlockLen_ne _) (keyBlockLen_le _), h.master_iff hdata, h.random_iff hdata,
    hkept.suite_iff h.offered]
  constructor
  · rintro ⟨hmaster, hrandom, hsuite⟩
    exact ⟨hmaster, hrandom, hsuite⟩
  · intro hstands
    exact ⟨hstands.master, hstands.random, hstands.suite⟩

end Stands

/-- **The owner key belongs to its session** where the loop looked at the session and the last suite
taken from any session is as good, and nowhere else. There both ends have the same key. -/
theorem ownerPsk_iff (events : List Event) (endpoint : CAEndpoint) (peer : SslEndPoint Session)
    (master : Vector UInt8 48) (random : Vector UInt8 64) (cipher : CipherSuite)
    (hpeer : getSslPeer (runEvents events).peerList endpoint = some peer)
    (h : Finished peer.data master random cipher) :
    ((∀ hmac args, caSslGenerateOwnerPsk hmac (runEvents events) endpoint args
        = ownerKey hmac master random cipher args)
      ↔ KeyStands (runEvents events) peer.data master random cipher)
      ∧ ∀ events' endpoint' peer', getSslPeer (runEvents events').peerList endpoint' = some peer' →
        Finished peer'.data master random cipher →
        KeyStands (runEvents events) peer.data master random cipher →
        KeyStands (runEvents events') peer'.data master random cipher →
        ∀ hmac args, caSslGenerateOwnerPsk hmac (runEvents events) endpoint args
          = caSslGenerateOwnerPsk hmac (runEvents events') endpoint' args := by
  have hiff := generate_eq_iff (runEvents_kept events) hpeer h
  refine ⟨hiff, ?_⟩
  intro events' endpoint' peer' hpeer' h' hstands hstands' hmac args
  have hiff' := generate_eq_iff (runEvents_kept events') hpeer' h'
  rw [hiff.mpr hstands, hiff'.mpr hstands']

/-! ## Two handshakes -/

def firstMaster : Vector UInt8 48 := Vector.replicate 48 7

def firstRandom : Vector UInt8 64 := Vector.replicate 64 9

def viewIn (cipher : CipherSuite) (state : SslState) : SslView :=
  ⟨state, cipher, firstMaster, firstRandom⟩

def passing (cipher : CipherSuite) (state : SslState) : HandshakeStep :=
  ⟨viewIn cipher state, .passed⟩

def firstPeer : CAEndpoint := ⟨1, Coap.addrOne, 5684⟩

def secondPeer : CAEndpoint := ⟨1, Coap.addrTwo, 5684⟩

def firstHandshake : Event :=
  .decrypt firstPeer ([.clientKeyExchange, .clientChangeCipherSpec, .handshakeOver].map
    (passing .ecdhePskWithAes128CbcSha256))

def secondHandshake : Event :=
  .decrypt secondPeer ([.clientKeyExchange, .clientChangeCipherSpec].map
    (passing .ecdheEcdsaWithAes128Ccm))

def firstSession : Session :=
  ⟨viewIn .ecdhePskWithAes128CbcSha256 .handshakeOver, firstMaster, firstRandom,
    [.clientKeyExchange, .clientChangeCipherSpec, .handshakeOver].map
      (fun state => ⟨viewIn .ecdhePskWithAes128CbcSha256 state, true⟩)⟩

lemma firstSession_finished :
    Finished firstSession firstMaster firstRandom .ecdhePskWithAes128CbcSha256 where
  handshake := rfl
  exchanged := ⟨_, mem_cons_self, rfl⟩
  randbytes := by
    intro s hs _
    obtain ⟨state, -, rfl⟩ := mem_map.mp hs
    rfl
  changed := ⟨_, mem_cons_of_mem _ mem_cons_self, rfl⟩
  negotiated := by
    intro s hs _
    obtain ⟨state, -, rfl⟩ := mem_map.mp hs
    exact ⟨rfl, rfl⟩
  offered := by decide

lemma getSslPeer_firstHandshake :
    getSslPeer (runEvents [firstHandshake]).peerList firstPeer
      = some ⟨firstPeer, firstSession⟩ := rfl

theorem firstHandshake_key :
    Finished firstSession firstMaster firstRandom .ecdhePskWithAes128CbcSha256
      ∧ ∀ hmac args, caSslGenerateOwnerPsk hmac (runEvents [firstHandshake]) firstPeer args
        = ownerKey hmac firstMaster firstRandom .ecdhePskWithAes128CbcSha256 args := by
  refine ⟨firstSession_finished, ?_⟩
  refine (ownerPsk_iff [firstHandshake] firstPeer ⟨firstPeer, firstSession⟩ firstMaster
    firstRandom .ecdhePskWithAes128CbcSha256 getSslPeer_firstHandshake
    firstSession_finished).1.mpr ?_
  refine ⟨.inl ?_, .inl ?_, ?_⟩
  · exact ⟨_, mem_cons_of_mem _ mem_cons_self, rfl, rfl⟩
  · exact ⟨_, mem_cons_self, rfl, rfl⟩
  · exact ⟨viewIn .ecdhePskWithAes128CbcSha256 .clientChangeCipherSpec, rfl, rfl⟩

theorem secondHandshake_changesKey :
    Finished firstSession firstMaster firstRandom .ecdhePskWithAes128CbcSha256
      ∧ getSslPeer (runEvents [firstHandshake, secondHandshake]).peerList firstPeer
        = some ⟨firstPeer, firstSession⟩
      ∧ caSslGenerateOwnerPsk (fun key _ => Vector.replicate 32 (UInt8.ofNat key.length))
        (runEvents [firstHandshake]) firstPeer oneByte = some [96]
      ∧ caSslGenerateOwnerPsk (fun key _ => Vector.replicate 32 (UInt8.ofNat key.length))
        (runEvents [firstHandshake, secondHandshake]) firstPeer oneByte = some [40] :=
  ⟨firstSession_finished, rfl, by decide, by decide⟩

end Iochibity.Sec.Ssl
