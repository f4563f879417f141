/-
Peers that are refused, over whole runs of datagrams.
-/
import Iochibity.Sec.SslEntries

namespace Iochibity.Sec.SslTable

open Coap (CAEndpoint)
open Ssl (SslEndPoint SslState getSslPeer peerKey removalKey)
open List
open Option

variable {Cert : Type}

/-! ## A full handshake -/

def rank : SslState → ℕ
  | .helloRequest => 0
  | .clientHello => 1
  | .serverHello => 2
  | .serverCertificate => 3
  | .serverKeyExchange => 4
  | .certificateRequest => 5
  | .serverHelloDone => 6
  | .clientCertificate => 7
  | .clientKeyExchange => 8
  | .certificateVerify => 9
  | .clientChangeCipherSpec => 10
  | .clientFinished => 11
  | .serverChangeCipherSpec => 12
  | .serverFinished => 13
  | .flushBuffers => 14
  | .handshakeWrapup => 15
  | .handshakeOver => 16
  | .serverNewSessionTicket => 17
  | .serverHelloVerifyRequestSent => 18

/-- **A step of a full handshake** of a server: one state, when it succeeds. The chain and its flags
come in `MBEDTLS_SSL_CLIENT_CERTIFICATE`; a hello is verified before a certificate is sent. -/
structure FullStep (ssl : MbedSsl Cert) (step : HandshakeStep Cert) : Prop where
  goesOn : step.ret = 0 → rank step.ssl.state = rank ssl.state + 1
  stays : step.ret ≠ 0 → step.ssl.state = ssl.state
  chain : ssl.state ≠ .clientCertificate →
    step.ssl.peerCert = ssl.peerCert ∧ step.ssl.verifyResult = ssl.verifyResult
  hello : step.ret = helloVerifyRequired → rank ssl.state < 3

def FullSteps (ssl : MbedSsl Cert) : List (HandshakeStep Cert) → Prop
  | [] => True
  | step :: rest =>
    FullStep ssl step ∧ if step.ret = helloVerifyRequired then
          match rest with
          | [] => True
          | again :: rest => FullStep .setUp again ∧ FullSteps again.ssl rest
        else FullSteps step.ssl rest

section

variable {ssl : MbedSsl Cert} {step : HandshakeStep Cert}

lemma FullSteps.first {rest : List (HandshakeStep Cert)}
    (h : FullSteps ssl (step :: rest)) : FullStep ssl step := by
  unfold FullSteps at h
  exact h.1

lemma FullSteps.again {ssl : MbedSsl Cert} {step again : HandshakeStep Cert}
    {rest : List (HandshakeStep Cert)} (h : FullSteps ssl (step :: again :: rest))
    (hhello : step.ret = helloVerifyRequired) :
    FullStep .setUp again ∧ FullSteps again.ssl rest := by
  unfold FullSteps at h
  have hrest := h.2
  rw [if_pos hhello] at hrest
  exact hrest

lemma FullSteps.rest {rest : List (HandshakeStep Cert)} (h : FullSteps ssl (step :: rest))
    (hhello : step.ret ≠ helloVerifyRequired) : FullSteps step.ssl rest := by
  unfold FullSteps at h
  have hrest := h.2
  rw [if_neg hhello] at hrest
  exact hrest

lemma fullSteps_cons {rest : List (HandshakeStep Cert)} (h : FullStep ssl step)
    (hhello : step.ret ≠ helloVerifyRequired) (hrest : FullSteps step.ssl rest) :
    FullSteps ssl (step :: rest) := by
  unfold FullSteps
  rw [if_neg hhello]
  exact ⟨h, hrest⟩

end

/-- **A session whose peer is known**: its chain was verified and let pass, and identity and key of
the session are the certificate's. -/
structure Authentic (lib : CertLib Cert) (d : Session Cert) (cert : Cert) : Prop where
  chain : d.ssl.peerCert = some cert
  verified : d.ssl.verifyResult = 0
  profiles : lib.validateAuthCertChainProfiles cert = 0
  name : peerCertExtractCN lib cert = true
  publicKey : lib.writePubkeyDer cert = some d.publicKey
  identity : ∃ name ∈ lib.subject cert,
    uuidBehind CertIdentity.uuidPrefix name = some (some d.identity)

/-- **Refused peers stay refused**: of the sessions from a number on, data is handed on for known
peers, and none that was refused before. -/
structure StaysRefused (lib : CertLib Cert) (first : ℕ) (log : List (SslEvent Cert)) : Prop where
  known : ∀ d data, .delivered d data ∈ log → first ≤ d.address →
    isCertless d.ssl.ciphersuite = false → ∃ cert, Authentic lib d cert
  refused : log.Pairwise (fun e e' => ∀ a d data, e = .refused a → e' = .delivered d data →
    first ≤ a → d.address ≠ a)

structure Datagram (Cert : Type) where
  endpoint : CAEndpoint
  io : SslIo Cert

/-- One call of `CAdecryptSsl`. -/
def datagramStep (lib : CertLib Cert) (s : Table Cert) (datagram : Datagram Cert) :
    Table Cert × List (SslEvent Cert) :=
  decryptSsl lib s datagram.endpoint datagram.io

def sessionFor (s : Table Cert) (endpoint : CAEndpoint) : Peer Cert :=
  (getSslPeer s.peerList endpoint).getD ⟨endpoint, .new s.next false⟩

def DatagramFull (s : Table Cert) (datagram : Datagram Cert) : Prop :=
  (sessionFor s datagram.endpoint).data.ssl.state ≠ .handshakeOver →
    FullSteps (sessionFor s datagram.endpoint).data.ssl datagram.io.steps

structure Usable (lib : CertLib Cert) (cert : Cert) : Prop where
  key : lib.writePubkeyDer cert ≠ none
  uuid : ∃ name, CertIdentity.pickedName (lib.subject cert) = some name
    ∧ uuidBehind CertIdentity.uuidPrefix name ≠ none

/-- A step with which a peer is refused, to be removed: there are flags, or the handshake is over
without a certificate, or with a UUID that cannot be converted. -/
def Refusable (lib : CertLib Cert) (step : HandshakeStep Cert) : Prop :=
  step.ssl.verifyResult ≠ 0
    ∨ (step.ssl.state = .handshakeOver ∧ isCertless step.ssl.ciphersuite = false
      ∧ ∀ cert, step.ssl.peerCert = some cert →
        ∃ name, CertIdentity.pickedName (lib.subject cert) = some name
          ∧ (uuidBehind CertIdentity.uuidPrefix name = some none
            ∨ uuidBehind userIdPrefix name = some none))

def Refusing (lib : CertLib Cert) (ssl : MbedSsl Cert) : Prop :=
  ssl.state = .certificateVerify ∧ ssl.peerCert.any (!chainPasses lib ·) = true

structure DatagramClean (lib : CertLib Cert) (s : Table Cert) (datagram : Datagram Cert) :
    Prop where
  -- no flags that are the number of an alert
  flags : ∀ step ∈ datagram.io.steps, step.ssl.verifyResult ≠ 0 →
    flagsInt step.ssl.verifyResult ∉ passed
  -- a handshake with a chain that was refused gets no further
  chain : Refusing lib (sessionFor s datagram.endpoint).data.ssl →
    ∀ step ∈ datagram.io.steps, step.ret ≠ 0
  -- what a handshake ends with can be used
  cert : ∀ step ∈ datagram.io.steps, step.ssl.state = .handshakeOver →
    isCertless step.ssl.ciphersuite = false → ∀ cert, step.ssl.peerCert = some cert →
      Usable lib cert
  -- a peer that is refused is removed, and not another one
  own : (∃ step ∈ datagram.io.steps, Refusable lib step) →
    OwnFirst s (sessionFor s datagram.endpoint).endpoint

/-! ## Handshakes -/

lemma rank_inj {a b : SslState} (h : rank a = rank b) : a = b := by
  cases a <;> cases b <;> first | rfl | cases h

/-- What is kept of a handshake: no flags behind the state that sets them, and no chain that is
refused behind the one that looks at it. -/
structure Checked (lib : CertLib Cert) (ssl : MbedSsl Cert) : Prop where
  flags : ssl.state ≠ .clientCertificate → ssl.verifyResult = 0
  chain : 9 < rank ssl.state → ssl.peerCert.any (!chainPasses lib ·) = false

variable {lib : CertLib Cert} {ssl : MbedSsl Cert} {step : HandshakeStep Cert}
  {steps : List (HandshakeStep Cert)}

lemma checked_setUp (lib : CertLib Cert) : Checked lib (.setUp : MbedSsl Cert) where
  flags := fun _ => rfl
  chain := fun _ => rfl

lemma FullStep.checked_stays (h : FullStep ssl step) (hchecked : Checked lib ssl)
    (hret : step.ret ≠ 0) : Checked lib step.ssl where
  flags := by
    rw [h.stays hret]
    intro hstate
    rw [(h.chain hstate).2]
    exact hchecked.flags hstate
  chain := by
    rw [h.stays hret]
    intro hrank
    have hstate : ssl.state ≠ .clientCertificate := by
      intro heq
      rw [heq] at hrank
      exact absurd hrank (by decide)
    rw [(h.chain hstate).1]
    exact hchecked.chain hrank

lemma FullStep.checked_goesOn (h : FullStep ssl step) (hchecked : Checked lib ssl)
    (hret : step.ret = 0) (hflags : step.ssl.verifyResult = 0) (hgo : ¬ Refusing lib ssl) :
    Checked lib step.ssl where
  flags := fun _ => hflags
  chain := by
    rw [h.goesOn hret]
    intro hrank
    have hstate : ssl.state ≠ .clientCertificate := by
      intro heq
      rw [heq] at hrank
      exact absurd hrank (by decide)
    rw [(h.chain hstate).1]
    by_cases hbehind : 9 < rank ssl.state
    · exact hchecked.chain hbehind
    -- it is looked at in the state before
    have hverify : rank ssl.state = rank .certificateVerify := by
      have : rank .certificateVerify = 9 := rfl
      omega
    exact Bool.eq_false_iff.mpr (hgo ⟨rank_inj hverify, ·⟩)

lemma checkStep_cases (lib : CertLib Cert)
    (hflags : step.ssl.verifyResult ≠ 0 → flagsInt step.ssl.verifyResult ∉ passed) :
    (step.ssl.verifyResult ≠ 0 ∧ checkStep lib step = some (.unverified step.ssl.verifyResult))
      ∨ step.ssl.verifyResult = 0
        ∧ ((step.ret ≠ 0 ∧ checkStep lib step = some (.failed step.ret))
          ∨ (Refusing lib step.ssl ∧ checkStep lib step = some .badChain)
          ∨ ¬ Refusing lib step.ssl
            ∧ ((step.ssl.state = .handshakeOver ∧ checkStep lib step = some .isOver)
              ∨ (step.ssl.state ≠ .handshakeOver ∧ checkStep lib step = none))) := by
  unfold checkStep
  by_cases hverify : step.ssl.verifyResult = 0
  · refine .inr ⟨hverify, ?_⟩
    rw [if_neg (·.1 hverify)]
    by_cases hret : step.ret ∈ passed
    · rw [if_neg (not_not.mpr hret)]
      by_cases hrefusing : step.ssl.state = .certificateVerify
          ∧ step.ssl.peerCert.any (!chainPasses lib ·) = true
      · exact .inr (.inl ⟨hrefusing, if_pos hrefusing⟩)
      rw [if_neg hrefusing]
      refine .inr (.inr ⟨hrefusing, ?_⟩)
      by_cases hover : step.ssl.state = .handshakeOver
      · exact .inl ⟨hover, if_pos hover⟩
      · exact .inr ⟨hover, if_neg hover⟩
    · exact .inl ⟨fun heq => hret (by rw [heq]; decide), if_pos hret⟩
  · exact .inl ⟨hverify, if_pos ⟨hverify, hflags hverify⟩⟩

def EndsWell (lib : CertLib Cert) (steps : List (HandshakeStep Cert)) (ssl : MbedSsl Cert) :
    HandshakeEnd → Prop
  | .unverified _ => ∃ step ∈ steps, step.ssl.verifyResult ≠ 0
  | .isOver => Checked lib ssl ∧ ssl.state = .handshakeOver ∧ ∃ step ∈ steps, step.ssl = ssl
  | .badChain => Checked lib ssl ∧ Refusing lib ssl
  | _ => Checked lib ssl ∧ ssl.state ≠ .handshakeOver

lemma EndsWell.mono {steps' : List (HandshakeStep Cert)} (hsub : steps ⊆ steps')
    {ended : HandshakeEnd} (h : EndsWell lib steps ssl ended) : EndsWell lib steps' ssl ended := by
  cases ended with
  | unverified flags =>
    obtain ⟨step, hstep, hverify⟩ := h
    exact ⟨step, hsub hstep, hverify⟩
  | isOver =>
    obtain ⟨hchecked, hover, step, hstep, hssl⟩ := h
    exact ⟨hchecked, hover, step, hsub hstep, hssl⟩
  | badChain => exact h
  | waits => exact h
  | socketError => exact h
  | failed ret => exact h

lemma ended_only {α : Type*} {P : α → Prop} {q : Prop} {ended : α} (h : P ended) :
    (∀ a, some ended = some a → P a) ∧ (some ended = none → q) := by
  refine ⟨fun a ha => ?_, fun hnone => absurd hnone (some_ne_none _)⟩
  rw [← some.inj ha]
  exact h

lemma FullStep.ends (h : FullStep ssl step) (hchecked : Checked lib ssl)
    (hrun : ssl.state ≠ .handshakeOver) (hgo : Refusing lib ssl → step.ret ≠ 0)
    (hflags : step.ssl.verifyResult ≠ 0 → flagsInt step.ssl.verifyResult ∉ passed) :
    (∀ ended, checkStep lib step = some ended → EndsWell lib [step] step.ssl ended)
      ∧ (checkStep lib step = none → Checked lib step.ssl ∧ step.ssl.state ≠ .handshakeOver
        ∧ ¬ Refusing lib step.ssl) := by
  have hnext : step.ssl.verifyResult = 0 → Checked lib step.ssl := by
    intro hverify
    by_cases hret : step.ret = 0
    · exact h.checked_goesOn hchecked hret hverify (hgo · hret)
    · exact h.checked_stays hchecked hret
  obtain ⟨hverify, hcheck⟩ | ⟨hverify, ⟨hret, hcheck⟩ | ⟨hrefusing, hcheck⟩ | ⟨hrefusing,
    ⟨hover, hcheck⟩ | ⟨hover, hcheck⟩⟩⟩ := checkStep_cases lib hflags
  · rw [hcheck]
    exact ended_only ⟨step, mem_singleton_self step, hverify⟩
  · rw [hcheck]
    exact ended_only ⟨hnext hverify, by rw [h.stays hret]; exact hrun⟩
  · rw [hcheck]
    exact ended_only ⟨hnext hverify, hrefusing⟩
  · rw [hcheck]
    exact ended_only ⟨hnext hverify, hover, step, mem_singleton_self step, rfl⟩
  · rw [hcheck]
    exact ⟨fun ended hended => absurd hended.symm (some_ne_none _),
      fun _ => ⟨hnext hverify, hover, hrefusing⟩⟩

lemma decryptLoop_ends (hfull : FullSteps ssl steps) (hchecked : Checked lib ssl)
    (hrun : ssl.state ≠ .handshakeOver) (hgo : Refusing lib ssl → ∀ step ∈ steps, step.ret ≠ 0)
    (hflags : ∀ step ∈ steps, step.ssl.verifyResult ≠ 0 → flagsInt step.ssl.verifyResult ∉ passed) :
    EndsWell lib steps (decryptLoop lib ssl steps).1 (decryptLoop lib ssl steps).2 := by
  fun_induction decryptLoop lib ssl steps with
  | case1 ssl => exact ⟨hchecked, hrun⟩
  | case2 ssl step rest heof =>
    have hret : step.ret ≠ 0 := by
      rw [heof]
      decide
    refine ⟨hfull.first.checked_stays hchecked hret, ?_⟩
    rw [hfull.first.stays hret]
    exact hrun
  | case3 ssl step heof hhello => exact ⟨checked_setUp lib, SslState.noConfusion⟩
  | case4 ssl step heof hhello again rest ended hcheck =>
    have hends := (hfull.again hhello).1.ends (checked_setUp lib) SslState.noConfusion
      (absurd ·.1 SslState.noConfusion)
      (hflags again (mem_cons_of_mem _ mem_cons_self))
    refine (hends.1 ended hcheck).mono (fun later hlater => ?_)
    rw [mem_singleton.mp hlater]
    simp
  | case5 ssl step heof hhello again rest hcheck ih =>
    have hends := (hfull.again hhello).1.ends (checked_setUp lib) SslState.noConfusion
      (absurd ·.1 SslState.noConfusion)
      (hflags again (mem_cons_of_mem _ mem_cons_self))
    obtain ⟨hchecked', hrun', hgo'⟩ := hends.2 hcheck
    have hsub : rest ⊆ step :: again :: rest :=
      fun later hlater => mem_cons_of_mem _ (mem_cons_of_mem _ hlater)
    exact (ih (hfull.again hhello).2 hchecked' hrun' (absurd · hgo')
      (fun later hlater => hflags later (hsub hlater))).mono hsub
  | case6 ssl step rest heof hhello ended hcheck =>
    have hends := hfull.first.ends hchecked hrun
      (hgo · step mem_cons_self) (hflags step mem_cons_self)
    refine (hends.1 ended hcheck).mono (fun later hlater => ?_)
    rw [mem_singleton.mp hlater]
    simp
  | case7 ssl step rest heof hhello hcheck ih =>
    have hends := hfull.first.ends hchecked hrun
      (hgo · step mem_cons_self) (hflags step mem_cons_self)
    obtain ⟨hchecked', hrun', hgo'⟩ := hends.2 hcheck
    exact (ih (hfull.rest hhello) hchecked' hrun' (absurd · hgo')
      (fun later hlater => hflags later (mem_cons_of_mem _ hlater))).mono (subset_cons_self _ _)

lemma FullStep.refusing (h : FullStep ssl step) (hrefusing : Refusing lib ssl)
    (hret : step.ret ≠ 0) : Refusing lib step.ssl := by
  obtain ⟨hstate, hbad⟩ := hrefusing
  refine ⟨(h.stays hret).trans hstate, ?_⟩
  rw [(h.chain (by rw [hstate]; exact SslState.noConfusion)).1]
  exact hbad

lemma decryptLoop_refusing (hfull : FullSteps ssl steps) (hrefusing : Refusing lib ssl)
    (hgo : ∀ step ∈ steps, step.ret ≠ 0) : Refusing lib (decryptLoop lib ssl steps).1 := by
  have hhello : ∀ {ssl : MbedSsl Cert} {step : HandshakeStep Cert}
      {rest : List (HandshakeStep Cert)}, FullSteps ssl (step :: rest) → Refusing lib ssl →
        step.ret ≠ helloVerifyRequired := by
    intro ssl step rest hfull hrefusing hhello
    have hrank := hfull.first.hello hhello
    rw [hrefusing.1] at hrank
    exact absurd hrank (by decide)
  fun_induction decryptLoop lib ssl steps with
  | case1 ssl => exact hrefusing
  | case2 ssl step rest heof =>
    exact hfull.first.refusing hrefusing (hgo step mem_cons_self)
  | case3 ssl step heof hverify => exact absurd hverify (hhello hfull hrefusing)
  | case4 ssl step heof hverify => exact absurd hverify (hhello hfull hrefusing)
  | case5 ssl step heof hverify => exact absurd hverify (hhello hfull hrefusing)
  | case6 ssl step rest heof hverify ended hcheck =>
    exact hfull.first.refusing hrefusing (hgo step mem_cons_self)
  | case7 ssl step rest heof hverify hcheck ih =>
    exact ih (hfull.rest hverify) (hfull.first.refusing hrefusing (hgo step mem_cons_self))
      (fun later hlater => hgo later (mem_cons_of_mem _ hlater))

/-! ## What a datagram does to its session -/

structure Known (lib : CertLib Cert) (d : Session Cert) : Prop where
  server : d.isClient = false
  checked : Checked lib d.ssl
  authentic : d.ssl.state = .handshakeOver → isCertless d.ssl.ciphersuite = false →
    ∃ cert, Authentic lib d cert

structure Becomes (lib : CertLib Cert) (before after : List (Peer Cert)) (next : ℕ)
    (tep : Peer Cert) (left : Option (Session Cert)) (r : Table Cert × List (SslEvent Cert)) :
    Prop where
  list : r.1.peerList.Sublist (place before after next tep.endpoint left).peerList
  next : r.1.next = next
  kept : ∀ session ∈ left, session.address = tep.data.address ∧ Known lib session
  refused : ∀ a, .refused a ∈ r.2 → a = tep.data.address
    ∧ ∀ session ∈ left, Refusing lib session.ssl
  delivered : ∀ d data, .delivered d data ∈ r.2 → d = tep.data ∧ d.ssl.state = .handshakeOver
    ∧ ∀ a, .refused a ∉ r.2
  stuck : Refusing lib tep.data.ssl → ∀ session ∈ left, Refusing lib session.ssl

lemma removePeer_sublist (s : Table Cert) (endpoint : CAEndpoint) :
    (removePeer s endpoint).1.peerList.Sublist s.peerList ∧ (removePeer s endpoint).1.next = s.next
      ∧ ∀ e ∈ (removePeer s endpoint).2, ∃ a, e = .freed a := by
  refine ⟨eraseP_sublist, rfl, fun e he => ?_⟩
  unfold removePeer at he
  simp only at he
  split at he
  · simp at he
  · exact ⟨_, mem_singleton.mp he⟩

section Place

variable {before after : List (Peer Cert)} {next : ℕ} {tep : Peer Cert} {s : Table Cert}
  {io : SslIo Cert} {left : Option (Session Cert)} {r : Table Cert × List (SslEvent Cert)}

def Plain (events : List (SslEvent Cert)) : Prop :=
  ∀ e ∈ events, (∃ a, e = .freed a) ∨ ∃ result, e = .returned result

variable {events : List (SslEvent Cert)}

lemma Plain.not_refused (h : Plain events) (a : ℕ) :
    .refused a ∉ events := by
  intro hmem
  obtain ⟨_, heq⟩ | ⟨_, heq⟩ := h _ hmem
  · cases heq
  · cases heq

lemma Plain.not_delivered (h : Plain events) (d : Session Cert)
    (data : List UInt8) : .delivered d data ∉ events := by
  intro hmem
  obtain ⟨_, heq⟩ | ⟨_, heq⟩ := h _ hmem
  · cases heq
  · cases heq

lemma becomes_plain (hlist : r.1.peerList.Sublist
      (place before after next tep.endpoint left).peerList) (hnext : r.1.next = next)
    (hplain : Plain r.2)
    (hkept : ∀ session ∈ left, session.address = tep.data.address ∧ Known lib session)
    (hstuck : Refusing lib tep.data.ssl → ∀ session ∈ left, Refusing lib session.ssl) :
    Becomes lib before after next tep left r where
  list := hlist
  next := hnext
  kept := hkept
  refused := fun a ha => absurd ha (hplain.not_refused a)
  delivered := fun d data hd => absurd hd (hplain.not_delivered d data)
  stuck := hstuck

lemma readData_becomes (hknown : Known lib tep.data)
    (hover : tep.data.ssl.state = .handshakeOver) (read : SslRead) :
    Becomes lib before after next tep (some tep.data)
      (readData (place before after next tep.endpoint (some tep.data)) tep read) := by
  have hkept : ∀ session ∈ some tep.data,
      session.address = tep.data.address ∧ Known lib session := by
    rintro session ⟨⟩
    exact ⟨rfl, hknown⟩
  have hstuck : Refusing lib tep.data.ssl →
      ∀ session ∈ some tep.data, Refusing lib session.ssl := by
    rintro hrefusing session ⟨⟩
    exact hrefusing
  obtain hsaid | ⟨bytes, hgiven⟩ | ⟨-, result, hremoved⟩ :=
    readData_cases (place before after next tep.endpoint (some tep.data)) tep read
  · rw [hsaid]
    exact becomes_plain (List.Sublist.refl _) rfl
      (fun e he => .inr ⟨.ok, mem_singleton.mp he⟩) hkept hstuck
  · rw [hgiven]
    have hnone : ∀ a, (.refused a : SslEvent Cert)
        ∉ [.delivered tep.data bytes, .returned .ok] := by
      intro a
      simp
    refine ⟨List.Sublist.refl _, rfl, hkept, fun a ha => absurd ha (hnone a), ?_, hstuck⟩
    intro d data hd
    obtain heq | hd := mem_cons.mp hd
    · cases heq
      exact ⟨rfl, hover, hnone⟩
    · cases mem_singleton.mp hd
  · rw [hremoved]
    obtain ⟨hlist, hnext, hfreed⟩ := removePeer_sublist
      (place before after next tep.endpoint (some tep.data)) tep.endpoint
    refine becomes_plain hlist hnext (fun e he => ?_) hkept hstuck
    obtain he | he := mem_append.mp he
    · exact .inl (hfreed e he)
    · exact .inr ⟨result, mem_singleton.mp he⟩

variable {d : Session Cert}

lemma failed_becomes {ret : ℤ} (haddress : d.address = tep.data.address) (hknown : Known lib d)
    (hstuck : Refusing lib tep.data.ssl → Refusing lib d.ssl) :
    Becomes lib before after next tep (some d)
      ((sslOperationFailed (place before after next tep.endpoint (some d)) ⟨tep.endpoint, d⟩ ret).1,
        (sslOperationFailed (place before after next tep.endpoint (some d)) ⟨tep.endpoint, d⟩ ret).2
          ++ [.returned .failed]) := by
  have hremoved : sslOperationFailed (place before after next tep.endpoint (some d))
      ⟨tep.endpoint, d⟩ ret
        = removePeer (place before after next tep.endpoint (some d)) tep.endpoint := by
    unfold sslOperationFailed
    rw [if_neg]
    rintro ⟨_, hclient⟩
    exact absurd (hknown.server.symm.trans hclient) Bool.false_ne_true
  rw [hremoved]
  obtain ⟨hlist, hnext, hfreed⟩ := removePeer_sublist
    (place before after next tep.endpoint (some d)) tep.endpoint
  refine becomes_plain hlist hnext (fun e he => ?_) ?_ ?_
  · obtain he | he := mem_append.mp he
    · exact .inl (hfreed e he)
    · exact .inr ⟨_, mem_singleton.mp he⟩
  · rintro session ⟨⟩
    exact ⟨haddress, hknown⟩
  rintro hrefusing session ⟨⟩
  exact hstuck hrefusing

lemma refused_becomes (hown : ∀ o ∈ before, removalKey o.endpoint ≠ removalKey tep.endpoint)
    {ret : ℤ} {a : ℕ} (haddress : a = tep.data.address) (hserver : d.isClient = false) :
    Becomes lib before after next tep none
      ((sslOperationFailed (place before after next tep.endpoint (some d)) ⟨tep.endpoint, d⟩ ret).1,
        (sslOperationFailed (place before after next tep.endpoint (some d)) ⟨tep.endpoint, d⟩ ret).2
          ++ [.refused a, .returned .failed]) := by
  have hremoved : sslOperationFailed (place before after next tep.endpoint (some d))
      ⟨tep.endpoint, d⟩ ret = (place before after next tep.endpoint none, [.freed d.address]) := by
    unfold sslOperationFailed
    rw [if_neg]
    · exact removePeer_place hown d
    · rintro ⟨_, hclient⟩
      exact absurd (hserver.symm.trans hclient) Bool.false_ne_true
  rw [hremoved]
  refine ⟨List.Sublist.refl _, rfl, fun _ hsession => absurd hsession (not_mem_none _), ?_,
    ?_, fun _ _ hsession => absurd hsession (not_mem_none _)⟩
  · intro a' ha
    simp only [mem_append, mem_cons, not_mem_nil, reduceCtorEq, or_false, false_or,
      SslEvent.refused.injEq] at ha
    exact ⟨ha.trans haddress, fun _ hsession => absurd hsession (not_mem_none _)⟩
  · intro d' data hd
    simp at hd

lemma takeCert_set {session : Session Cert} {cert : Cert} (hcert : d.ssl.peerCert = some cert)
    (husable : Usable lib cert) (htake : takeCert lib d = .set session) :
    session.address = d.address ∧ session.isClient = d.isClient ∧ session.ssl = d.ssl
      ∧ lib.writePubkeyDer cert = some session.publicKey
      ∧ ∃ name ∈ lib.subject cert,
        uuidBehind CertIdentity.uuidPrefix name = some (some session.identity) := by
  obtain ⟨hkey, name, hname, huuid⟩ := husable
  unfold takeCert at htake
  rw [hcert] at htake
  simp only at htake
  obtain ⟨publicKey, hpublicKey⟩ := ne_none_iff_exists'.mp hkey
  rw [hpublicKey] at htake
  simp only [hname] at htake
  obtain ⟨found, hfound⟩ := ne_none_iff_exists'.mp huuid
  rw [hfound] at htake
  cases found with
  | none => cases htake
  | some uuid =>
    simp only at htake
    split at htake
    · cases htake
    cases htake
    refine ⟨rfl, rfl, rfl, hpublicKey, name, mem_of_find?_eq_some hname, ?_⟩
    rw [hfound]
    rfl

lemma finishHandshake_becomes (haddress : d.address = tep.data.address)
    (hserver : d.isClient = false)
    (hapart : ∀ o ∈ before, peerKey o.endpoint ≠ peerKey (SslEndPoint.mk tep.endpoint d).endpoint)
    (hchecked : Checked lib d.ssl) (hover : d.ssl.state = .handshakeOver)
    (hstuck : ¬ Refusing lib tep.data.ssl)
    (husable : isCertless d.ssl.ciphersuite = false → ∀ cert, d.ssl.peerCert = some cert →
      Usable lib cert)
    (hown : (isCertless d.ssl.ciphersuite = false ∧ ∀ cert, d.ssl.peerCert = some cert →
        ∃ name, CertIdentity.pickedName (lib.subject cert) = some name
          ∧ (uuidBehind CertIdentity.uuidPrefix name = some none
            ∨ uuidBehind userIdPrefix name = some none)) →
      ∀ o ∈ before, removalKey o.endpoint ≠ removalKey tep.endpoint) :
    ∃ left, Becomes lib before after next tep left
      (finishHandshake lib (place before after next tep.endpoint (some d)) ⟨tep.endpoint, d⟩
        io) := by
  have hclient : ¬ d.isClient = true := by
    rw [hserver]
    simp
  have hplaced : ∀ session : Session Cert,
      setPeer (place before after next tep.endpoint (some d)) ⟨tep.endpoint, d⟩ session
        = place before after next tep.endpoint (some session) := setPeer_place hapart d
  have hset : ∀ session : Session Cert, session.address = d.address → Known lib session →
      Becomes lib before after next tep (some session)
        (place before after next tep.endpoint (some session), [] ++ [.returned .ok]) := by
    intro session hsame hknown
    refine becomes_plain (List.Sublist.refl _) rfl
      (fun e he => .inr ⟨_, mem_singleton.mp he⟩) ?_ (absurd · hstuck)
    rintro _ ⟨⟩
    exact ⟨hsame.trans haddress, hknown⟩
  unfold finishHandshake
  simp only [if_neg hclient]
  by_cases hcertless : isCertless d.ssl.ciphersuite = true
  · rw [if_pos hcertless, hplaced]
    refine ⟨_, hset _ rfl ⟨hserver, hchecked, fun _ hsuite => ?_⟩⟩
    exact absurd (hsuite.symm.trans hcertless) Bool.false_ne_true
  rw [if_neg hcertless]
  have hsuite := Bool.eq_false_iff.mpr hcertless
  obtain ⟨htake, hnone⟩ | ⟨cert, hsome, htake⟩ := takeCert_spec lib d
  · rw [htake]
    simp only [hplaced, nil_append]
    have hown := hown ⟨hsuite, fun cert hcert => absurd (hnone.symm.trans hcert)
      (some_ne_none cert).symm⟩
    exact ⟨none, refused_becomes hown haddress hserver⟩
  have hcert := husable hsuite cert hsome
  obtain ⟨_, hkey⟩ | ⟨session, hsame, htake | ⟨htake, hname⟩⟩ := htake
  · exact absurd hkey hcert.key
  · obtain ⟨hsession, hrole, hssl, hkey, hidentity⟩ := takeCert_set hsome hcert htake
    rw [htake]
    simp only [hplaced]
    refine ⟨_, hset session hsession ⟨hrole.trans hserver, hssl ▸ hchecked, fun _ _ => ?_⟩⟩
    have hpasses : chainPasses lib cert = true := by
      have hchain := hchecked.chain (by rw [hover]; decide)
      rw [hsome] at hchain
      simpa only [any_some, Bool.not_eq_false'] using hchain
    obtain ⟨hprofiles, hcn⟩ := Bool.and_eq_true_iff.mp hpasses
    refine ⟨cert, hssl ▸ hsome, ?_, eq_of_beq hprofiles, hcn, hkey, hidentity⟩
    rw [hssl]
    exact hchecked.flags (by rw [hover]; exact SslState.noConfusion)
  · rw [htake]
    simp only [hplaced, nil_append]
    have hown := hown ⟨hsuite, fun other hother => by
      rw [hsome] at hother
      rw [← some.inj hother]
      exact hname⟩
    exact ⟨none, refused_becomes hown (hsame.address.trans haddress) (hsame.isClient.trans hserver)⟩

lemma decryptWith_becomes (s : Table Cert) (before after : List (Peer Cert)) (next : ℕ)
    (tep : Peer Cert) (hknown : Known lib tep.data)
    (hapart : ∀ o ∈ before, peerKey o.endpoint ≠ peerKey tep.endpoint)
    (hown : OwnFirst s tep.endpoint → ∀ o ∈ before, removalKey o.endpoint ≠ removalKey tep.endpoint)
    (hfull : tep.data.ssl.state ≠ .handshakeOver → FullSteps tep.data.ssl io.steps)
    (hflags : ∀ step ∈ io.steps, step.ssl.verifyResult ≠ 0 →
      flagsInt step.ssl.verifyResult ∉ passed)
    (hchain : Refusing lib tep.data.ssl → ∀ step ∈ io.steps, step.ret ≠ 0)
    (hcert : ∀ step ∈ io.steps, step.ssl.state = .handshakeOver →
      isCertless step.ssl.ciphersuite = false → ∀ cert, step.ssl.peerCert = some cert →
        Usable lib cert)
    (hrefusable : (∃ step ∈ io.steps, Refusable lib step) → OwnFirst s tep.endpoint) :
    ∃ left, Becomes lib before after next tep left
      (decryptWith lib (place before after next tep.endpoint (some tep.data)) tep io) := by
  unfold decryptWith
  by_cases hover : tep.data.ssl.state = .handshakeOver
  · rw [if_pos hover]
    exact ⟨_, readData_becomes hknown hover io.read⟩
  rw [if_neg hover]
  have hends := decryptLoop_ends (hfull hover) hknown.checked hover hchain hflags
  have hstuck : Refusing lib tep.data.ssl →
      Refusing lib (decryptLoop lib tep.data.ssl io.steps).1 :=
    fun hrefusing => decryptLoop_refusing (hfull hover) hrefusing (hchain hrefusing)
  generalize decryptLoop lib tep.data.ssl io.steps = result at hends hstuck ⊢
  obtain ⟨ssl, ended⟩ := result
  simp only at hends hstuck ⊢
  generalize hd : ({ tep.data with ssl := ssl } : Session Cert) = d
  have hssl : d.ssl = ssl := by rw [← hd]
  have haddress : d.address = tep.data.address := by rw [← hd]
  have hrole : d.isClient = tep.data.isClient := by rw [← hd]
  have hapart' : ∀ o ∈ before,
    peerKey o.endpoint ≠ peerKey (SslEndPoint.mk tep.endpoint d).endpoint := hapart
  have hplaced : setPeer (place before after next tep.endpoint (some tep.data)) ⟨tep.endpoint, d⟩
      d = place before after next tep.endpoint (some d) := setPeer_place hapart' tep.data d
  rw [hplaced]
  have hserver := hrole.trans hknown.server
  have hrunning : Checked lib ssl → ssl.state ≠ .handshakeOver → Known lib d := by
    intro hchecked hrun
    rw [← hssl] at hchecked hrun
    exact ⟨hserver, hchecked, fun hover => absurd hover hrun⟩
  have hwaits : Checked lib ssl → ssl.state ≠ .handshakeOver →
      Becomes lib before after next tep (some d)
        (place before after next tep.endpoint (some d), [.returned .ok]) := by
    intro hchecked hrun
    refine becomes_plain (List.Sublist.refl _) rfl (fun e he => .inr ⟨_, mem_singleton.mp he⟩) ?_ ?_
    · rintro _ ⟨⟩
      exact ⟨haddress, hrunning hchecked hrun⟩
    · rintro hrefusing _ ⟨⟩
      rw [hssl]
      exact hstuck hrefusing
  cases ended with
  | waits | socketError =>
    rw [if_neg hends.2]
    exact ⟨_, hwaits hends.1 hends.2⟩
  | failed ret =>
    refine ⟨_, failed_becomes haddress (hrunning hends.1 hends.2) (fun hrefusing => ?_)⟩
    rw [hssl]
    exact hstuck hrefusing
  | unverified flags =>
    obtain ⟨step, hstep, hverify⟩ := hends
    have hown := hown (hrefusable ⟨step, hstep, .inl hverify⟩)
    exact ⟨none, refused_becomes hown rfl hserver⟩
  | badChain =>
    obtain ⟨hchecked, hrefusing⟩ := hends
    have hrun : ssl.state ≠ .handshakeOver := by
      rw [hrefusing.1]
      simp
    have hkept : ∀ session ∈ some d, Refusing lib session.ssl := by
      rintro _ ⟨⟩
      rw [hssl]
      exact hrefusing
    refine ⟨some d, List.Sublist.refl _, rfl, ?_, fun a ha => ?_, fun d' data hd' => ?_,
      fun _ => hkept⟩
    · rintro _ ⟨⟩
      exact ⟨haddress, hrunning hchecked hrun⟩
    · simp only [mem_cons, not_mem_nil, reduceCtorEq, or_false, SslEvent.refused.injEq] at ha
      exact ⟨ha, hkept⟩
    · simp at hd'
  | isOver =>
    obtain ⟨hchecked, hover', step, hstep, hshown⟩ := hends
    rw [← hssl] at hchecked hover' hshown hstuck
    refine finishHandshake_becomes haddress hserver hapart' hchecked hover' ?_ ?_ ?_
    · intro hrefusing
      have hstate := (hstuck hrefusing).1
      rw [hover'] at hstate
      cases hstate
    · intro hsuite cert hsome
      exact hcert step hstep (by rw [hshown]; exact hover') (by rw [hshown]; exact hsuite) cert
        (by rw [hshown]; exact hsome)
    · rintro ⟨hsuite, hnames⟩
      refine hown (hrefusable ⟨step, hstep, .inr ?_⟩)
      rw [hshown]
      exact ⟨hover', hsuite, hnames⟩

end Place

/-! ## Runs -/

def SslEvent.tells : SslEvent Cert → Bool
  | .refused _ => true
  | .delivered _ _ => true
  | _ => false

structure Holds (lib : CertLib Cert) (first : ℕ) (s : Table Cert) (log : List (SslEvent Cert)) :
    Prop where
  formed : WellFormed s
  since : first ≤ s.next
  known : ∀ tep ∈ s.peerList, first ≤ tep.data.address → Known lib tep.data
  past : ∀ a, .refused a ∈ log → a < s.next
  stuck : ∀ a, .refused a ∈ log → first ≤ a →
    ∀ tep ∈ s.peerList, tep.data.address = a → Refusing lib tep.data.ssl
  right : StaysRefused lib first log

section Runs

variable {first : ℕ} {s : Table Cert} {log events : List (SslEvent Cert)}
  {before after : List (Peer Cert)} {next : ℕ} {endpoint : CAEndpoint} {d : Session Cert}
  {tep : Peer Cert} {left : Option (Session Cert)} {r : Table Cert × List (SslEvent Cert)}

lemma staysRefused_append (h : StaysRefused lib first log)
    (hknown : ∀ d data, .delivered d data ∈ events → first ≤ d.address →
      isCertless d.ssl.ciphersuite = false → ∃ cert, Authentic lib d cert)
    (hafter : ∀ a d data, .refused a ∈ log ++ events → .delivered d data ∈ events → first ≤ a →
      d.address ≠ a) : StaysRefused lib first (log ++ events) where
  known := fun d data hd => (mem_append.mp hd).elim (h.known d data) (hknown d data)
  refused := by
    refine pairwise_append.mpr ⟨h.refused, ?_, ?_⟩
    · refine pairwise_of_forall_mem_list ?_
      rintro e he e' he' a d data rfl rfl
      exact hafter a d data (mem_append_right _ he) he'
    · rintro e he e' he' a d data rfl rfl
      exact hafter a d data (mem_append_left _ he) he'

lemma WellFormed.others_ne (h : WellFormed (place before after next endpoint (some d)))
    {other : Peer Cert} (hother : other ∈ before ++ after) : other.data.address ≠ d.address :=
  place_others_ne h.addresses hother

lemma Holds.becomes (h : Holds lib first (place before after next endpoint (some d)) log)
    (hfirst : first ≤ d.address) (hformed : WellFormed r.1)
    (hbecomes : Becomes lib before after next ⟨endpoint, d⟩ left r) :
    Holds lib first r.1 (log ++ r.2) := by
  have hmem : ∀ {left' : Option (Session Cert)} {o : Peer Cert}, o ∈ before ++ after →
      o ∈ (place before after next endpoint left').peerList := fun ho => mem_place.mpr (.inl ho)
  have hd : (⟨endpoint, d⟩ : Peer Cert) ∈ (place before after next endpoint (some d)).peerList :=
    mem_place.mpr (.inr ⟨d, rfl, rfl⟩)
  have hown := h.known _ hd hfirst
  constructor
  · exact hformed
  · rw [hbecomes.next]
    exact h.since
  · intro tep htep hsince
    obtain ho | ⟨session, hsession, rfl⟩ := mem_place.mp (hbecomes.list.subset htep)
    · exact h.known tep (hmem ho) hsince
    · exact (hbecomes.kept session hsession).2
  · intro a ha
    rw [hbecomes.next]
    obtain ha | ha := mem_append.mp ha
    · exact h.past a ha
    rw [(hbecomes.refused a ha).1]
    exact h.formed.fresh _ hd
  · intro a ha hsince tep htep haddress
    obtain ho | ⟨session, hsession, rfl⟩ := mem_place.mp (hbecomes.list.subset htep)
    · obtain ha | ha := mem_append.mp ha
      · exact h.stuck a ha hsince tep (hmem ho) haddress
      rw [(hbecomes.refused a ha).1] at haddress
      exact absurd haddress (h.formed.others_ne ho)
    obtain ha | ha := mem_append.mp ha
    · have hsame := (hbecomes.kept session hsession).1
      exact hbecomes.stuck (h.stuck a ha hsince _ hd (hsame.symm.trans haddress)) session hsession
    · exact (hbecomes.refused a ha).2 session hsession
  · refine staysRefused_append h.right (fun d' data hd' _ hsuite => ?_)
      (fun a d' data ha hd' hsince heq => ?_)
    · obtain ⟨rfl, hover, _⟩ := hbecomes.delivered d' data hd'
      exact hown.authentic hover hsuite
    · obtain ⟨rfl, hover, hnone⟩ := hbecomes.delivered d' data hd'
      obtain ha | ha := mem_append.mp ha
      · -- the handshake is over, and cannot be stuck
        have hstate := (h.stuck a ha hsince _ hd heq).1
        rw [hover] at hstate
        cases hstate
      · exact hnone a ha

lemma Holds.touches {a : ℕ} (h : Holds lib first s log) (htouches : Touches s a r)
    (hold : a < first) : Holds lib first r.1 (log ++ r.2) := by
  have hsame : ∀ o ∈ r.1.peerList, first ≤ o.data.address → o ∈ s.peerList :=
    fun o ho hsince => htouches.others o ho (by omega)
  constructor
  · exact h.formed.touch htouches
  · rw [htouches.next]
    exact h.since
  · exact fun tep htep hsince => h.known tep (hsame tep htep hsince) hsince
  · intro a' ha
    rw [htouches.next]
    obtain ha | ha := mem_append.mp ha
    · exact h.past a' ha
    rw [htouches.refused a' ha]
    exact hold.trans_le h.since
  · intro a' ha hsince tep htep haddress
    obtain ha | ha := mem_append.mp ha
    · exact h.stuck a' ha hsince tep (hsame tep htep (by omega)) haddress
    have heq := htouches.refused a' ha
    omega
  · refine staysRefused_append h.right (fun d' data hd' hsince _ => ?_)
      (fun a' d' data _ hd' hsince heq => ?_)
    · have heq := htouches.delivered d' data hd'
      omega
    · have heq' := htouches.delivered d' data hd'
      omega

lemma Holds.say (h : Holds lib first s log) (hevents : ∀ e ∈ events, e.tells = false) :
    Holds lib first s (log ++ events) := by
  have hrefused : ∀ a, .refused a ∈ log ++ events → .refused a ∈ log := by
    intro a ha
    obtain ha | ha := mem_append.mp ha
    · exact ha
    · exact absurd (hevents _ ha).symm Bool.false_ne_true
  have hnone : ∀ d data, .delivered d data ∉ events :=
    fun d data hd => absurd (hevents _ hd).symm Bool.false_ne_true
  exact ⟨h.formed, h.since, h.known, fun a ha => h.past a (hrefused a ha),
    fun a ha => h.stuck a (hrefused a ha),
    staysRefused_append h.right (fun d data hd => absurd hd (hnone d data))
      (fun _ d data _ hd => absurd hd (hnone d data))⟩

lemma Holds.skip (h : Holds lib first s log) :
    Holds lib first { s with next := s.next + 1 } log :=
  ⟨h.formed.skip, Nat.le_succ_of_le h.since, h.known, fun a ha => Nat.lt_succ_of_lt (h.past a ha),
    h.stuck, h.right⟩

lemma known_new (address : ℕ) : Known lib (.new address false) where
  server := rfl
  checked := checked_setUp lib
  authentic := fun hover => SslState.noConfusion hover

lemma Holds.born (h : Holds lib first s log) (hfind : getSslPeer s.peerList endpoint = none) :
    Holds lib first (addPeer s ⟨endpoint, .new s.next false⟩) (log ++ [.opened s.next false]) := by
  have hadd : Holds lib first (addPeer s ⟨endpoint, .new s.next false⟩) log := by
    constructor
    · exact h.formed.add hfind rfl
    · exact Nat.le_succ_of_le h.since
    · intro tep htep hsince
      obtain htep | htep := mem_append.mp htep
      · exact h.known tep htep hsince
      rw [mem_singleton.mp htep]
      exact known_new s.next
    · exact fun a ha => Nat.lt_succ_of_lt (h.past a ha)
    · intro a ha hsince tep htep haddress
      obtain htep | htep := mem_append.mp htep
      · exact h.stuck a ha hsince tep htep haddress
      rw [mem_singleton.mp htep] at haddress
      exact absurd (haddress.symm ▸ h.past a ha) (lt_irrefl _)
    · exact h.right
  exact hadd.say (forall_mem_singleton.mpr rfl)

lemma datagramStep_holds (h : Holds lib first s log) {datagram : Datagram Cert}
    (hclean : first ≤ (sessionFor s datagram.endpoint).data.address →
      DatagramFull s datagram ∧ DatagramClean lib s datagram) :
    Holds lib first (datagramStep lib s datagram).1 (log ++ (datagramStep lib s datagram).2) := by
  unfold datagramStep decryptSsl
  cases hfind : getSslPeer s.peerList datagram.endpoint with
  | some tep =>
    simp only
    have hfor : sessionFor s datagram.endpoint = tep := by
      unfold sessionFor
      simp [hfind]
    have hmem : tep ∈ s.peerList := FirstMatch.mem_of_lookup _ hfind
    have htouches := decryptWith_touches lib (h.formed.only hmem) datagram.io
    by_cases hsince : first ≤ tep.data.address
    · obtain ⟨hfull, hclean⟩ := hclean (by rw [hfor]; exact hsince)
      have hformed := h.formed.touch htouches
      have hknown := h.known tep hmem hsince
      obtain ⟨before, after, hplace, hapart, _⟩ := place_of_lookup h.formed.keys hfind
      have hfront : ∀ o ∈ before, peerKey o.endpoint ≠ peerKey tep.endpoint :=
        fun o ho => hapart o (mem_append_left _ ho)
      have hbecomes := decryptWith_becomes s before after s.next tep hknown hfront
        (fun hown => hown.front (congrArg Table.peerList hplace) hfront)
        (by rw [← hfor]; exact hfull) hclean.flags (by rw [← hfor]; exact hclean.chain)
        hclean.cert (by rw [← hfor]; exact hclean.own)
      obtain ⟨left, hbecomes⟩ := hbecomes
      rw [← hplace] at hbecomes
      rw [hplace] at h
      exact h.becomes hsince hformed hbecomes
    · exact h.touches htouches (by omega)
  | none =>
    have hfor : sessionFor s datagram.endpoint = ⟨datagram.endpoint, .new s.next false⟩ := by
      unfold sessionFor
      simp [hfind]
    have hsince : first ≤ s.next := h.since
    obtain ⟨hfull, hclean⟩ := hclean (by rw [hfor]; exact hsince)
    simp only
    split
    · have hborn := h.born hfind
      have hown := hborn.formed.only (mem_addPeer s ⟨datagram.endpoint, .new s.next false⟩)
      have hformed := hborn.formed.touch (decryptWith_touches lib hown datagram.io)
      have hnew := new_of_lookup hfind
      have hbecomes := decryptWith_becomes s s.peerList [] (s.next + 1)
        ⟨datagram.endpoint, .new s.next false⟩ (known_new s.next) hnew
        (·.front (append_nil _).symm hnew)
        (by rw [← hfor]; exact hfull) hclean.flags (by rw [← hfor]; exact hclean.chain)
        hclean.cert (by rw [← hfor]; exact hclean.own)
      obtain ⟨left, hbecomes⟩ := hbecomes
      have hnext := hborn.becomes hsince hformed hbecomes
      rw [append_assoc] at hnext
      exact hnext
    refine (h.skip).say (forall_mem_cons.mpr ⟨rfl, ?_⟩)
    exact forall_mem_cons.mpr ⟨rfl, forall_mem_singleton.mpr rfl⟩

end Runs

def tableAfter (lib : CertLib Cert) (calls : List (SslCall Cert)) : Table Cert :=
  (Runs.run (sslStep lib) Table.empty calls).1

lemma tableAfter_wellFormed (lib : CertLib Cert) (calls : List (SslCall Cert)) :
    WellFormed (tableAfter lib calls) :=
  Runs.run_inv WellFormed (fun _ => True) (fun _ call _ h => sslStep_wellFormed lib h call)
    wellFormed_empty (fun _ _ => trivial)

/-- **Refused peers stay refused**: after any calls, over datagrams that do no harm to the sessions
that they open, data of these sessions is handed on for known peers only. -/
theorem refused_exact (lib : CertLib Cert) (calls : List (SslCall Cert))
    (datagrams : List (Datagram Cert)) (h : Runs.Along (datagramStep lib)
      (fun s datagram =>
        (tableAfter lib calls).next ≤ (sessionFor s datagram.endpoint).data.address →
          DatagramFull s datagram ∧ DatagramClean lib s datagram)
      (tableAfter lib calls) datagrams) :
    StaysRefused lib (tableAfter lib calls).next
      (Runs.run (datagramStep lib) (tableAfter lib calls) datagrams).2 := by
  have hformed := tableAfter_wellFormed lib calls
  generalize tableAfter lib calls = s at h hformed ⊢
  have hstart : Holds lib s.next s [] := by
    refine ⟨hformed, le_refl _, fun tep htep hsince => ?_, fun _ ha => absurd ha not_mem_nil,
      fun _ ha => absurd ha not_mem_nil, ?_⟩
    · exact absurd (hformed.fresh tep htep) (Nat.not_lt.mpr hsince)
    · exact ⟨fun _ _ hd => absurd hd not_mem_nil, List.Pairwise.nil⟩
  exact (Runs.run_hist_of (Holds lib s.next)
    (fun _ _ _ hholds hclean => datagramStep_holds hholds hclean) hstart h).right

/-! ## One peer with a certificate -/

variable (cert : Cert) (flags : UInt32)

def shown (state : SslState) : MbedSsl Cert :=
  if 7 < rank state then ⟨state, flags, some cert, .other⟩ else ⟨state, 0, none, .other⟩

def through (states : List SslState) : List (HandshakeStep Cert) :=
  states.map fun state => ⟨0, shown cert flags state⟩

lemma shown_state (state : SslState) : (shown cert flags state).state = state := by
  unfold shown
  split
  · rfl
  · rfl

lemma through_full {state : SslState} {states : List SslState}
    (h : List.IsChain (fun a b => rank b = rank a + 1) (state :: states)) :
    FullSteps (shown cert flags state) (through cert flags states) := by
  induction states generalizing state with
  | nil => exact trivial
  | cons next rest ih =>
    obtain ⟨hrank, hrest⟩ := isChain_cons_cons.mp h
    have hhello : (0 : ℤ) ≠ helloVerifyRequired := by decide
    refine fullSteps_cons ⟨fun _ => ?_, fun hret => absurd rfl hret, fun hstate => ?_,
      fun hret => absurd hret hhello⟩ hhello (ih hrest)
    · rw [shown_state, shown_state]
      exact hrank
    · rw [shown_state] at hstate
      have hbefore : rank state ≠ 7 := fun heq => hstate (rank_inj heq)
      have hsame : (shown cert flags next).peerCert = (shown cert flags state).peerCert
          ∧ (shown cert flags next).verifyResult = (shown cert flags state).verifyResult := by
        unfold shown
        by_cases hshown : 7 < rank state
        · rw [if_pos hshown, if_pos (by omega)]
          exact ⟨rfl, rfl⟩
        rw [if_neg hshown, if_neg (by omega)]
        exact ⟨rfl, rfl⟩
      exact hsame

def twoCerts : CertLib Bool :=
  ⟨fun cert => if cert then 0 else -1, none, fun _ => some [1],
    fun _ => [⟨RoleCert.mbedtlsOidAtCn, CertIdentity.uuidPrefix ++ List.replicate 36 0x30⟩]⟩

def untilVerify : List SslState :=
  [.clientHello, .serverHello, .serverCertificate, .serverKeyExchange, .certificateRequest,
    .serverHelloDone, .clientCertificate, .clientKeyExchange, .certificateVerify]
def behindVerify : List SslState :=
  [.clientChangeCipherSpec, .clientFinished, .serverChangeCipherSpec, .serverFinished,
    .flushBuffers, .handshakeWrapup, .handshakeOver]

lemma untilVerify_full : FullSteps (.setUp : MbedSsl Cert) (through cert flags untilVerify) := by
  have hchain : List.IsChain (fun a b => rank b = rank a + 1) (.helloRequest :: untilVerify) := by
    decide
  exact through_full cert flags hchain

lemma behindVerify_full :
    FullSteps ⟨.certificateVerify, flags, some cert, .other⟩ (through cert flags behindVerify) := by
  have hchain : List.IsChain (fun a b => rank b = rank a + 1)
      (.certificateVerify :: behindVerify) := by
    decide
  exact through_full cert flags hchain

def handshakeAndData : List (Datagram Cert) :=
  [⟨ipPeer, ⟨true, through cert flags untilVerify, true, [], .nothing⟩⟩,
    ⟨ipPeer, ⟨true, through cert flags behindVerify, true, [], .nothing⟩⟩,
    ⟨ipPeer, ⟨true, [], true, [], .data [1]⟩⟩]

def SslEvent.unknown (lib : CertLib Cert) : SslEvent Cert → Bool
  | .delivered d _ =>
    !isCertless d.ssl.ciphersuite
      && (d.ssl.verifyResult != 0
        || d.ssl.peerCert.all (fun cert => !chainPasses lib cert || (lib.subject cert).isEmpty))
  | _ => false

lemma not_staysRefused {log : List (SslEvent Cert)}
    (h : log.any (SslEvent.unknown lib) = true) : ¬ StaysRefused lib 0 log := by
  intro hstays
  obtain ⟨e, he, hunknown⟩ := any_eq_true.mp h
  cases e with
  | delivered d data =>
    obtain ⟨hsuite, hbad⟩ := Bool.and_eq_true_iff.mp hunknown
    have hsuite : isCertless d.ssl.ciphersuite = false := by
      simpa only [Bool.not_eq_true'] using hsuite
    obtain ⟨cert, hcert⟩ := hstays.known d data he (Nat.zero_le _) hsuite
    have hpasses : chainPasses lib cert = true :=
      Bool.and_eq_true_iff.mpr ⟨beq_iff_eq.mpr hcert.profiles, hcert.name⟩
    obtain ⟨name, hname, _⟩ := hcert.identity
    have hnames : (lib.subject cert).isEmpty = false :=
      Bool.eq_false_iff.mpr (fun hempty =>
        absurd hname (List.isEmpty_iff.mp hempty ▸ not_mem_nil))
    rw [hcert.verified, hcert.chain, all_some, hpasses, hnames] at hbad
    simp at hbad
  | _ => cases hunknown

theorem alertFlags_delivered :
    (Runs.Along (datagramStep twoCerts) DatagramFull Table.empty (handshakeAndData true 42)
        ∧ ¬ StaysRefused twoCerts 0
          (Runs.run (datagramStep twoCerts) Table.empty (handshakeAndData true 42)).2)
      ∧ (Runs.Along (datagramStep twoCerts) DatagramFull Table.empty (handshakeAndData false 0)
        ∧ ¬ StaysRefused twoCerts 0
          (Runs.run (datagramStep twoCerts) Table.empty (handshakeAndData false 0)).2)
      ∧ (Runs.Along (datagramStep plainLib) DatagramFull Table.empty (handshakeAndData () 0)
        ∧ ¬ StaysRefused plainLib 0
          (Runs.run (datagramStep plainLib) Table.empty (handshakeAndData () 0)).2) := by
  refine ⟨⟨⟨fun _ => ?_, fun _ => ?_, fun _ => trivial, trivial⟩, not_staysRefused (by decide)⟩,
    ⟨⟨fun _ => ?_, fun _ => ?_, fun _ => trivial, trivial⟩, not_staysRefused (by decide)⟩,
    ⟨⟨fun _ => ?_, fun _ => ?_, fun _ => trivial, trivial⟩, not_staysRefused (by decide)⟩⟩
  · exact untilVerify_full true 42
  · exact behindVerify_full true 42
  · exact untilVerify_full false 0
  · exact behindVerify_full false 0
  · exact untilVerify_full () 0
  · exact behindVerify_full () 0

lemma through_clean (lib : CertLib Cert) {cert : Cert} (huse : Usable lib cert)
    (hidentity : ∀ name, CertIdentity.pickedName (lib.subject cert) = some name →
      uuidBehind CertIdentity.uuidPrefix name ≠ some none
        ∧ uuidBehind userIdPrefix name ≠ some none)
    {s : Table Cert} {endpoint : CAEndpoint} (states : List SslState) (read : SslRead)
    (hgo : ¬ Refusing lib (sessionFor s endpoint).data.ssl) :
    DatagramClean lib s ⟨endpoint, ⟨true, through cert 0 states, true, [], read⟩⟩ := by
  have hshown : ∀ step ∈ through cert 0 states,
      step.ssl.verifyResult = 0 ∧ (7 < rank step.ssl.state → step.ssl.peerCert = some cert)
        ∧ ∀ c ∈ step.ssl.peerCert, c = cert := by
    intro step hstep
    obtain ⟨state, _, rfl⟩ := mem_map.mp hstep
    unfold shown
    by_cases hrank : 7 < rank state
    · rw [if_pos hrank]
      refine ⟨rfl, fun _ => rfl, ?_⟩
      rintro c ⟨⟩
      rfl
    rw [if_neg hrank]
    exact ⟨rfl, fun h => absurd h hrank, fun c hc => absurd hc (not_mem_none c)⟩
  constructor
  · exact fun step hstep hflags => absurd (hshown step hstep).1 hflags
  · exact fun hrefusing => absurd hrefusing hgo
  · intro step hstep _ _ c hc
    rw [(hshown step hstep).2.2 c hc]
    exact huse
  · rintro ⟨step, hstep, hflags | ⟨hover, _, hnames⟩⟩
    · exact absurd (hshown step hstep).1 hflags
    · have hcert := (hshown step hstep).2.1 (by rw [hover]; decide)
      obtain ⟨name, hname, hbad⟩ := hnames cert hcert
      obtain ⟨huuid, huser⟩ := hidentity name hname
      exact hbad.elim (absurd · huuid) (absurd · huser)

theorem knownPeer_delivered :
    StaysRefused twoCerts 0
      (Runs.run (datagramStep twoCerts) Table.empty (handshakeAndData true 0)).2 := by
  have hname : uuidBehind CertIdentity.uuidPrefix
      ⟨RoleCert.mbedtlsOidAtCn, CertIdentity.uuidPrefix ++ List.replicate 36 0x30⟩ ≠ none ∧
    uuidBehind CertIdentity.uuidPrefix
      ⟨RoleCert.mbedtlsOidAtCn, CertIdentity.uuidPrefix ++ List.replicate 36 0x30⟩ ≠ some none ∧
    uuidBehind userIdPrefix
      ⟨RoleCert.mbedtlsOidAtCn, CertIdentity.uuidPrefix ++ List.replicate 36 0x30⟩ ≠ some none := by
    decide
  have huse : Usable twoCerts true := ⟨some_ne_none _, _, rfl, hname.1⟩
  have hidentity : ∀ name, CertIdentity.pickedName (twoCerts.subject true) = some name →
      uuidBehind CertIdentity.uuidPrefix name ≠ some none
        ∧ uuidBehind userIdPrefix name ≠ some none := by
    rintro name ⟨⟩
    exact hname.2
  refine refused_exact twoCerts [] (handshakeAndData true 0) ⟨fun _ => ⟨fun _ => ?_, ?_⟩,
    fun _ => ⟨fun _ => ?_, ?_⟩, fun _ => ⟨fun _ => trivial, ?_⟩, trivial⟩
  · exact untilVerify_full true 0
  · exact through_clean twoCerts huse hidentity _ _ (fun h => absurd h.1 (by decide))
  · exact behindVerify_full true 0
  · exact through_clean twoCerts huse hidentity _ _ (fun h => absurd h.2 (by decide))
  · exact through_clean twoCerts huse hidentity [] _ (fun h => absurd h.1 (by decide))

end Iochibity.Sec.SslTable
