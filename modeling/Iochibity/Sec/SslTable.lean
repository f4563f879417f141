/-
The identity of a leaf certificate, `verifyIdentity` of `ca_adapter_net_ssl.c` with
`GetIdentityHandler` of `credresource.c`.
-/
import Iochibity.Ocf.RepPayload
import Iochibity.Sec.Roles
import Iochibity.Sec.OwnerPsk

namespace Iochibity.Sec.CertIdentity

open RoleCert (X509Name mbedtlsOidAtCn)

/-- `mbedtls_x509_crt`: the certificate as it was sent, and its subject. -/
structure X509Crt where
  raw : List UInt8
  subject : List X509Name
  deriving DecidableEq

def trustCa : String := "oic.sec.cred.trustca"

def uuidPrefix : List UInt8 := [0x75, 0x75, 0x69, 0x64, 0x3A]

/-- `UUID_STRING_SIZE - 1`. -/
def uuidTextLength : ℕ := 36

/-- The text of `OCConvertUuidToString`. -/
def uuidText (uuid : OicUuid) : List UInt8 := cString (convertUuidToStr uuid)

section Handler

variable (convertPemCertToDer : List UInt8 → Option (List UInt8))

def derOf (cred : OicSecCred) : Option (List UInt8) :=
  match cred.publicData.encoding with
  | .base64 | .pem => convertPemCertToDer (cred.publicData.data.getD [])
  | _ => some (cred.publicData.data.getD [])

def getIdentityHandler (list : List (List UInt8)) (crt : List UInt8) :
    List OicSecCred → Option (List (List UInt8))
  | [] => some list
  | cred :: rest =>
    if cred.credType ≠ signedAsymmetricKey then getIdentityHandler list crt rest
    else
      match cred.credUsage with
      | none => none
      | some usage =>
        if usage ≠ trustCa then getIdentityHandler list crt rest
        else if derOf convertPemCertToDer cred ≠ some crt then
          getIdentityHandler list crt rest
        else getIdentityHandler (list ++ [uuidText cred.subject]) crt rest

end Handler

/-! ## The callback -/

def pickedName (subject : List X509Name) : Option X509Name :=
  subject.find? (fun name => decide (name.oid <+: mbedtlsOidAtCn))

/-- What is behind the first place where `needle` is, for `memmem`. -/
def behindFirst (needle : List UInt8) : List UInt8 → Option (List UInt8)
  | [] => if needle = [] then some [] else none
  | c :: rest =>
    if needle <+: c :: rest then some ((c :: rest).drop needle.length)
    else behindFirst needle rest

def claimedText (name : X509Name) : Option (List UInt8) :=
  (behindFirst uuidPrefix name.val).bind fun behind =>
    if uuidTextLength ≤ behind.length then some (behind.take uuidTextLength) else none

def leafText (crt : X509Crt) : Option (List UInt8) := (pickedName crt.subject).bind claimedText

def uuidWildcard : List UInt8 := cString "2a000000-0000-0000-0000-000000000000"

def isMatched (list : List (List UInt8)) (uuid : List UInt8) : Bool :=
  list.any (fun node => node == uuid || node == uuidWildcard)

section Callback

variable (convertPemCertToDer : List UInt8 → Option (List UInt8)) (gCred : List OicSecCred)

def verifyIdentity (list : List (List UInt8)) (crt : X509Crt) (depth : ℕ) :
    Option (List (List UInt8) × Int) := do
  let list ← getIdentityHandler convertPemCertToDer list crt.raw gCred
  if depth = 0 then
    match leafText crt with
    | none => return (list, -1)
    | some uuid => return ([], if isMatched list uuid then 0 else -1)
  else return (list, 0)

/-- A chain from `crt` down to its leaf. It ends where the callback does not return 0. -/
def verifyChain (list : List (List UInt8)) (crt : X509Crt) :
    List X509Crt → Option (List (List UInt8) × Int)
  | [] => verifyIdentity convertPemCertToDer gCred list crt 0
  | next :: rest => do
      let (list, ret) ← verifyIdentity convertPemCertToDer gCred list crt (rest.length + 1)
      if ret ≠ 0 then return (list, ret) else verifyChain list next rest

end Callback

structure Callback where
  gCred : List OicSecCred
  crt : X509Crt
  depth : ℕ

def listAfter (convertPemCertToDer : List UInt8 → Option (List UInt8))
    (history : List Callback) : Option (List (List UInt8)) :=
  history.foldlM
    (fun list callback =>
      (verifyIdentity convertPemCertToDer callback.gCred list callback.crt callback.depth).map
        Prod.fst)
    []

end Iochibity.Sec.CertIdentity

namespace Iochibity.Sec.SslTable

open Coap (CAEndpoint)
open RoleCert (X509Name mbedtlsOidAtCn)
open Ssl (SslEndPoint SslState CipherSuite getSslPeer changePeer removalKey)

def connEof : ℤ := -0x7280

def helloVerifyRequired : ℤ := -0x6A80

def badHsClientHello : ℤ := -0x7900

def wantWrite : ℤ := -0x6880

/-- The numbers that `checkSslOperation` lets pass: 0, some errors, and the numbers of alerts. -/
def passed : List ℤ :=
  [0, -0x7880, helloVerifyRequired, -0x6900, wantWrite, -0x6680,
    90, 100, 110, 41, 42, 43, 44, 45, 46, 86, 112, 115, 120]

def flagsInt (flags : UInt32) : ℤ := flags.toInt32.toInt

def isBeforeOver : SslState → Bool
  | .handshakeOver | .serverNewSessionTicket | .serverHelloVerifyRequestSent => false
  | _ => true

variable {Cert : Type}

structure MbedSsl (Cert : Type) where
  state : SslState
  verifyResult : UInt32
  peerCert : Option Cert
  ciphersuite : CipherSuite

def MbedSsl.setUp : MbedSsl Cert := ⟨.helloRequest, 0, none, .other⟩

structure HandshakeStep (Cert : Type) where
  ret : ℤ
  ssl : MbedSsl Cert

/-- Certificates, as mbedTLS, `ValidateAuthCertChainProfiles` and the callback for the CN, if one is
set, see them. -/
structure CertLib (Cert : Type) where
  validateAuthCertChainProfiles : Cert → ℤ
  peerCNVerify : Option (Option (List UInt8) → Bool)
  writePubkeyDer : Cert → Option (List UInt8)
  subject : Cert → List X509Name

inductive SslRead
  | closed
  | failed
  | nothing
  | data (bytes : List UInt8)

/-! ## Sessions -/

structure Session (Cert : Type) where
  address : ℕ
  isClient : Bool
  ssl : MbedSsl Cert
  identity : OicUuid
  userId : OicUuid
  publicKey : List UInt8
  cacheList : List (List UInt8)

def Session.new (address : ℕ) (isClient : Bool) : Session Cert :=
  ⟨address, isClient, .setUp, .nil, .nil, [], []⟩

/-- An entry of `peerList`. -/
abbrev Peer (Cert : Type) := SslEndPoint (Session Cert)

/-- `peerList`, and the number of the next session. -/
structure Table (Cert : Type) where
  peerList : List (Peer Cert)
  next : ℕ

def Table.empty : Table Cert := ⟨[], 0⟩

inductive SslResult
  | ok
  | failed
  | handshakeFailure
  deriving DecidableEq

/-- What happens: sessions are opened, closed by the caller and released; messages are accepted for
a session, written, or reported through the error callback of its adapter; its peer is refused, or
data of it is handed on. Messages have the role of their session. -/
inductive SslEvent (Cert : Type)
  | opened (address : ℕ) (isClient : Bool)
  | closed (address : ℕ)
  | freed (address : ℕ)
  | accepted (address : ℕ) (isClient : Bool) (message : List UInt8)
  | wrote (address : ℕ) (isClient : Bool) (message : List UInt8)
  | reported (address : ℕ) (message : List UInt8)
  | refused (address : ℕ)
  | delivered (session : Session Cert) (data : List UInt8)
  | returned (result : SslResult)

/-- `GetAdapterIndex`: IP, GATT and TCP have one. -/
def hasAdapterIndex (adapter : UInt32) : Bool := adapter == 1 || adapter == 2 || adapter == 16

def setPeer (s : Table Cert) (tep : Peer Cert) (session : Session Cert) : Table Cert :=
  { s with peerList := changePeer s.peerList tep.endpoint (fun _ => session) }

/-- `RemovePeerFromList` and `DeleteSslEndPoint`. -/
def removePeer (s : Table Cert) (endpoint : CAEndpoint) : Table Cert × List (SslEvent Cert) :=
  ({ s with peerList := Ssl.removePeerFromList s.peerList endpoint },
    match FirstMatch.lookup (fun tep : Peer Cert => removalKey tep.endpoint) (removalKey endpoint)
        s.peerList with
    | none => []
    | some tep => [.freed tep.data.address])

/-- The loop around `mbedtls_ssl_write`: it goes on until all is written or the connection fails,
and that is where the results end. -/
def writeAll (len : ℕ) : ℕ → List ℤ → Bool
  | _, [] => false
  | written, ret :: rest =>
    if ret < 0 then
      if ret ≠ wantWrite then false else writeAll len written rest
    else if len ≤ written + ret.toNat then true
    else writeAll len (written + ret.toNat) rest

/-- `SendCacheMessages` without an error, with the results for each message: what was written. All
are deleted. -/
def writeCache (address : ℕ) : List (List UInt8) → List (List ℤ) → List (SslEvent Cert)
  | [], _ => []
  | message :: rest, writes =>
    (if writeAll message.length 0 (writes.headD []) then [.wrote address true message] else [])
      ++ writeCache address rest writes.tail

/-- `SendCacheMessages` with an error. -/
def reportCache (tep : Peer Cert) : List (SslEvent Cert) :=
  if hasAdapterIndex tep.endpoint.adapter then
    tep.data.cacheList.map (.reported tep.data.address)
  else []

/-! ## Checks -/

/-- `checkSslOperation` when `ret` does not pass. `SendCacheMessages` leaves no messages. -/
def sslOperationFailed (s : Table Cert) (tep : Peer Cert) (ret : ℤ) :
    Table Cert × List (SslEvent Cert) :=
  if ret ≠ badHsClientHello ∧ tep.data.isClient then
    let removed := removePeer (setPeer s tep { tep.data with cacheList := [] }) tep.endpoint
    (removed.1, reportCache tep ++ removed.2)
  else removePeer s tep.endpoint

section Checks

variable (lib : CertLib Cert)

def peerCertExtractCN (cert : Cert) : Bool :=
  match lib.peerCNVerify with
  | none => true
  | some verify =>
    verify (((lib.subject cert).find? (·.oid = mbedtlsOidAtCn)).map X509Name.val)

/-- A chain that the checks in `MBEDTLS_SSL_CERTIFICATE_VERIFY` let pass. -/
def chainPasses (cert : Cert) : Bool :=
  lib.validateAuthCertChainProfiles cert == 0 && peerCertExtractCN lib cert

inductive HandshakeEnd
  | waits
  | socketError
  | failed (ret : ℤ)
  | unverified (flags : UInt32)
  | badChain
  | isOver

def checkStep (step : HandshakeStep Cert) : Option HandshakeEnd :=
  if step.ssl.verifyResult ≠ 0 ∧ flagsInt step.ssl.verifyResult ∉ passed then
    some (.unverified step.ssl.verifyResult)
  else if step.ret ∉ passed then some (.failed step.ret)
  else if step.ssl.state = .certificateVerify ∧ step.ssl.peerCert.any (!chainPasses lib ·)
    then some .badChain
  else if step.ssl.state = .handshakeOver then some .isOver
  else none

/-- The loop of `CAdecryptSsl`. When a hello has to be verified the session is reset and steps once
more. -/
def decryptLoop (ssl : MbedSsl Cert) : List (HandshakeStep Cert) → MbedSsl Cert × HandshakeEnd
  | [] => (ssl, .waits)
  | step :: rest =>
    if step.ret = connEof then (step.ssl, .waits)
    else if step.ret = helloVerifyRequired then
      match rest with
      | [] => (.setUp, .failed connEof)
      | again :: rest =>
        match checkStep lib again with
        | some ended => (again.ssl, ended)
        | none => decryptLoop again.ssl rest
    else
      match checkStep lib step with
      | some ended => (step.ssl, ended)
      | none => decryptLoop step.ssl rest

def initiateLoop (ssl : MbedSsl Cert) : List (HandshakeStep Cert) → MbedSsl Cert × HandshakeEnd
  | [] => (ssl, .waits)
  | step :: rest =>
    if isBeforeOver ssl.state then
      if step.ret = connEof then (step.ssl, .waits)
      else if step.ret = -1 then (step.ssl, .socketError)
      else if step.ret ∉ passed then (step.ssl, .failed step.ret)
      else initiateLoop step.ssl rest
    else (ssl, .waits)

def userIdPrefix : List UInt8 := [0x75, 0x73, 0x65, 0x72, 0x69, 0x64, 0x3A]

def textBehind (needle : List UInt8) (name : X509Name) : Option (List UInt8) :=
  (CertIdentity.behindFirst needle name.val).bind fun behind =>
    if CertIdentity.uuidTextLength ≤ behind.length then
      some (behind.take CertIdentity.uuidTextLength)
    else none

/-- `OCConvertStringToUuid`, for a text of that length: no byte of it ends the string. -/
def textToUuid (text : List UInt8) : Option OicUuid :=
  if 0 ∈ text then none else some (convertStringToUuid text)

def uuidBehind (needle : List UInt8) (name : X509Name) : Option (Option OicUuid) :=
  (textBehind needle name).map textToUuid

def isCertless (suite : CipherSuite) : Bool :=
  suite == .ecdhePskWithAes128CbcSha256 || suite == .ecdhAnonWithAes128CbcSha256

/-- What a session takes from the certificate of its peer, and whether it is taken. A failed
conversion leaves what was set before. -/
inductive Taken (Cert : Type)
  | noCert
  | noKey
  | noUuid (session : Session Cert)
  | set (session : Session Cert)

/-- The end of `CAdecryptSsl` for a session that is over: what is set of a certificate. -/
def takeCert (session : Session Cert) : Taken Cert :=
  match session.ssl.peerCert with
  | none => .noCert
  | some cert =>
    match lib.writePubkeyDer cert with
    | none => .noKey
    | some publicKey =>
      let session := { session with publicKey := publicKey }
      match CertIdentity.pickedName (lib.subject cert) with
      | none => .set session
      | some name =>
        match uuidBehind CertIdentity.uuidPrefix name with
        | some none => .noUuid session
        | found =>
          let session :=
            { session with identity := (found.bind id).getD session.identity }
          match uuidBehind userIdPrefix name with
          | some none => .noUuid session
          | found => .set { session with userId := (found.bind id).getD session.userId }

end Checks

/-! ## Calls -/

/-- What is outside a call: whether a suite could be set up, the handshake steps, what the callback
for handshakes answers, the results of writes, and what a datagram is read as. -/
structure SslIo (Cert : Type) where
  cipherSetUp : Bool
  steps : List (HandshakeStep Cert)
  notified : Bool
  writes : List (List ℤ)
  read : SslRead

section Calls

variable (lib : CertLib Cert)

variable (s : Table Cert)

variable (tep : Peer Cert)

/-- The end of `CAencryptSsl`, with a session. -/
def sendTo (message : List UInt8) (io : SslIo Cert) : Table Cert × List (SslEvent Cert) :=
  if tep.data.ssl.state = .handshakeOver then
    if writeAll message.length 0 (io.writes.headD []) then
      (s, [.accepted tep.data.address tep.data.isClient message,
        .wrote tep.data.address tep.data.isClient message, .returned .ok])
    else
      let removed := removePeer s tep.endpoint
      (removed.1, removed.2 ++ [.returned .failed])
  else
    (setPeer s tep { tep.data with cacheList := tep.data.cacheList ++ [message] },
      [.accepted tep.data.address tep.data.isClient message, .returned .ok])

def addPeer : Table Cert :=
  ⟨s.peerList ++ [tep], s.next + 1⟩

variable (endpoint : CAEndpoint)

/-- `InitiateTlsHandshake` in `CAencryptSsl`. A session that fails is released where it is removed
from the list, and again. -/
def initiate (message : List UInt8) (io : SslIo Cert) : Table Cert × List (SslEvent Cert) :=
  if io.cipherSetUp then
    let tep : Peer Cert := ⟨endpoint, .new s.next true⟩
    let (ssl, ended) := initiateLoop tep.data.ssl io.steps
    let tep : Peer Cert := { tep with data := { tep.data with ssl := ssl } }
    let s := addPeer s tep
    let after : Table Cert × List (SslEvent Cert) :=
      match ended with
      | .socketError =>
        let removed := removePeer s tep.endpoint
        (removed.1, removed.2 ++ [.returned .handshakeFailure])
      | .failed ret =>
        let failed := sslOperationFailed s tep ret
        (failed.1, failed.2 ++ [.freed tep.data.address, .returned .handshakeFailure])
      | _ => sendTo s tep message io
    (after.1, .opened tep.data.address true :: after.2)
  else
    ({ s with next := s.next + 1 },
      [.opened s.next true, .freed s.next, .returned .handshakeFailure])

def encryptSsl (message : List UInt8) (io : SslIo Cert) : Table Cert × List (SslEvent Cert) :=
  if message = [] then (s, [.returned .failed])
  else
    match getSslPeer s.peerList endpoint with
    | none => initiate s endpoint message io
    | some tep => sendTo s tep message io

/-- The end of `CAdecryptSsl` for a session whose handshake is over. -/
def readData (read : SslRead) : Table Cert × List (SslEvent Cert) :=
  match read with
  | .closed =>
    let removed := removePeer s tep.endpoint
    (removed.1, removed.2 ++ [.returned .ok])
  | read =>
    if hasAdapterIndex tep.endpoint.adapter then
      match read with
      | .failed =>
        let removed := removePeer s tep.endpoint
        (removed.1, removed.2 ++ [.returned .failed])
      | .data bytes =>
        -- for GATT there is no receiver
        if tep.endpoint.adapter = Ssl.caAdapterGattBtle then (s, [.returned .ok])
        else (s, [.delivered tep.data bytes, .returned .ok])
      | _ => (s, [.returned .ok])
    else
      let removed := removePeer s tep.endpoint
      (removed.1, removed.2 ++ [.returned .failed])

def finishHandshake (io : SslIo Cert) : Table Cert × List (SslEvent Cert) :=
  let sent : List (SslEvent Cert) :=
    if tep.data.isClient then
      if io.notified then writeCache tep.data.address tep.data.cacheList io.writes
      else reportCache tep
    else []
  let session : Session Cert :=
    if tep.data.isClient then { tep.data with cacheList := [] } else tep.data
  if isCertless session.ssl.ciphersuite then
    (setPeer s tep { session with publicKey := [] }, sent ++ [.returned .ok])
  else
    match takeCert lib session with
    | .noCert =>
      let failed := sslOperationFailed (setPeer s tep session) { tep with data := session } (-1)
      (failed.1, sent ++ failed.2 ++ [.refused session.address, .returned .failed])
    | .noKey =>
      (setPeer s tep session, sent ++ [.refused session.address, .returned .failed])
    | .noUuid session =>
      let failed := sslOperationFailed (setPeer s tep session) { tep with data := session } (-1)
      (failed.1, sent ++ failed.2 ++ [.refused session.address, .returned .failed])
    | .set session => (setPeer s tep session, sent ++ [.returned .ok])

/-- `CAdecryptSsl`, with a session. -/
def decryptWith (io : SslIo Cert) : Table Cert × List (SslEvent Cert) :=
  if tep.data.ssl.state = .handshakeOver then readData s tep io.read
  else
    let (ssl, ended) := decryptLoop lib tep.data.ssl io.steps
    let tep : Peer Cert := { tep with data := { tep.data with ssl := ssl } }
    let s := setPeer s tep tep.data
    match ended with
    | .failed ret =>
      let failed := sslOperationFailed s tep ret
      (failed.1, failed.2 ++ [.returned .failed])
    | .unverified flags =>
      let failed := sslOperationFailed s tep (flagsInt flags)
      (failed.1, failed.2 ++ [.refused tep.data.address, .returned .failed])
    | .badChain => (s, [.refused tep.data.address, .returned .failed])
    | .isOver => finishHandshake lib s tep io
    | _ =>
      if ssl.state = .handshakeOver then readData s tep io.read else (s, [.returned .ok])

def decryptSsl (io : SslIo Cert) : Table Cert × List (SslEvent Cert) :=
  match getSslPeer s.peerList endpoint with
  | some tep => decryptWith lib s tep io
  | none =>
    if io.cipherSetUp then
      let tep : Peer Cert := ⟨endpoint, .new s.next false⟩
      let after := decryptWith lib (addPeer s tep) tep io
      (after.1, .opened s.next false :: after.2)
    else
      ({ s with next := s.next + 1 }, [.opened s.next false, .freed s.next, .returned .failed])

def closeSslConnection : Table Cert × List (SslEvent Cert) :=
  match getSslPeer s.peerList endpoint with
  | none => (s, [.returned .failed])
  | some tep =>
    let removed := removePeer s tep.endpoint
    (removed.1, .closed tep.data.address :: removed.2 ++ [.returned .ok])

def closeSslConnectionAll (transportType : UInt32) : Table Cert × List (SslEvent Cert) :=
  ({ s with peerList := Ssl.closeSslConnectionAll s.peerList transportType },
    (s.peerList.filter (·.endpoint.adapter &&& transportType ≠ 0)).reverse.flatMap
      fun tep => [.closed tep.data.address, .freed tep.data.address])

inductive SslCall (Cert : Type)
  | encrypt (endpoint : CAEndpoint) (message : List UInt8) (io : SslIo Cert)
  | decrypt (endpoint : CAEndpoint) (io : SslIo Cert)
  | close (endpoint : CAEndpoint)
  | closeAll (transportType : UInt32)

def sslStep : SslCall Cert → Table Cert × List (SslEvent Cert)
  | .encrypt endpoint message io => encryptSsl s endpoint message io
  | .decrypt endpoint io => decryptSsl lib s endpoint io
  | .close endpoint => closeSslConnection s endpoint
  | .closeAll transportType => closeSslConnectionAll s transportType

end Calls

end Iochibity.Sec.SslTable
