/-
What becomes of sessions and of the messages that wait for them, over whole runs.
-/
import Iochibity.Lib.Runs
import Iochibity.Sec.SslTable

namespace Iochibity.Sec.SslTable

open Coap (CAEndpoint)
open Ssl (SslEndPoint getSslPeer peerKey removalKey maxAddrStrSizeCa)
open List (append_assoc append_nil cons_append filterMap_append filterMap_cons filter_append
  find?_eq_none forall_mem_cons map_append map_cons map_nil mem_append_left mem_append_right
  mem_filter mem_map_of_mem mem_singleton nil_append not_mem_nil singleton_append)
open Option (elim_some map_eq_some_iff map_none map_some mem_def mem_toList not_mem_none
  toList_none toList_some)
open Runs (run)

variable {Cert : Type}

def SslEvent.opened? : SslEvent Cert → Option ℕ
  | .opened address _ => some address
  | _ => none

def SslEvent.closed? : SslEvent Cert → Option ℕ
  | .closed address => some address
  | _ => none

def SslEvent.freed? : SslEvent Cert → Option ℕ
  | .freed address => some address
  | _ => none

def SslEvent.accepted? (session : ℕ) : SslEvent Cert → Option (List UInt8)
  | .accepted address isClient message =>
    if isClient = true ∧ address = session then some message else none
  | _ => none

def SslEvent.handled? (session : ℕ) : SslEvent Cert → Option (List UInt8)
  | .wrote address isClient message =>
    if isClient = true ∧ address = session then some message else none
  | .reported address message => if address = session then some message else none
  | _ => none

def SslEvent.fails : SslEvent Cert → Bool
  | .returned .failed => true
  | .returned .handshakeFailure => true
  | _ => false

def sessionKey (endpoint : CAEndpoint) : UInt32 × List UInt8 × UInt16 :=
  (endpoint.adapter, endpoint.addr.bytes.take maxAddrStrSizeCa, endpoint.port)

/-- **The table** after a run: at most one session for an adapter, address and port; each session
that was opened is in the list or was released, once; and what was accepted for a client session was
written or reported, in order, up to what still waits in it. For a session that the caller closed it
may be cut off. -/
structure TableRight (s : Table Cert) (log : List (SslEvent Cert)) : Prop where
  unique : (s.peerList.map (sessionKey ·.endpoint)).Nodup
  opened : (log.filterMap SslEvent.opened?).Nodup
  released : (log.filterMap SslEvent.freed? ++ s.peerList.map (·.data.address)).Perm
    (log.filterMap SslEvent.opened?)
  waiting : ∀ tep ∈ s.peerList, tep.data.isClient = true →
    log.filterMap (SslEvent.accepted? tep.data.address)
      = log.filterMap (SslEvent.handled? tep.data.address) ++ tep.data.cacheList
  gone : ∀ a, a ∉ s.peerList.map (·.data.address) → a ∉ log.filterMap SslEvent.closed? →
      log.filterMap (SslEvent.accepted? a) = log.filterMap (SslEvent.handled? a)
  cut : ∀ a, log.filterMap (SslEvent.handled? a) <+: log.filterMap (SslEvent.accepted? a)

/-- The sessions that `GetSslPeer` does not find for an endpoint. -/
def others (s : Table Cert) (endpoint : CAEndpoint) : List (Peer Cert) :=
  s.peerList.filter (peerKey ·.endpoint ≠ peerKey endpoint)

section

variable (lib : CertLib Cert) (s : Table Cert)

/-- **A call is right**: it leaves the sessions of other peers alone, and when it fails, or closes a
session, that session is gone. -/
def CallRight : SslCall Cert → Prop
  | .encrypt endpoint message io =>
    let r := encryptSsl s endpoint message io
    others r.1 endpoint = others s endpoint
      ∧ (message ≠ [] → r.2.any SslEvent.fails = true → getSslPeer r.1.peerList endpoint = none)
  | .decrypt endpoint io =>
    let r := decryptSsl lib s endpoint io
    others r.1 endpoint = others s endpoint
      ∧ (r.2.any SslEvent.fails = true → getSslPeer r.1.peerList endpoint = none)
  | .close endpoint =>
    let r := closeSslConnection s endpoint
    others r.1 endpoint = others s endpoint ∧ getSslPeer r.1.peerList endpoint = none
  | .closeAll transportType =>
    (closeSslConnectionAll s transportType).1.peerList
      = s.peerList.filter (·.endpoint.adapter &&& transportType = 0)

/-! ## What does no harm -/

def OwnFirst (s : Table Cert) (endpoint : CAEndpoint) : Prop :=
  ∀ other, s.peerList.find? (removalKey ·.endpoint = removalKey endpoint) = some other →
      peerKey other.endpoint = peerKey endpoint

def Writable (message : List UInt8) (results : List ℤ) : Prop :=
  writeAll message.length 0 results = true

def AllWritable : List (List UInt8) → List (List ℤ) → Prop
  | [], _ => True
  | message :: rest, writes => Writable message (writes.headD []) ∧ AllWritable rest writes.tail

def Reportable (tep : Peer Cert) : Prop :=
  tep.data.isClient = true → tep.data.cacheList ≠ [] → hasAdapterIndex tep.endpoint.adapter = true

section

variable (s : Table Cert) (tep : Peer Cert)

def FailureClean (ret : ℤ) : Prop :=
  OwnFirst s tep.endpoint ∧ Reportable tep
    ∧ (tep.data.isClient = true → tep.data.cacheList ≠ [] → ret ≠ badHsClientHello)

def SendClean (ssl : MbedSsl Cert) (message : List UInt8) (io : SslIo Cert) : Prop :=
  ssl.state = .handshakeOver → ¬ Writable message (io.writes.headD []) → OwnFirst s tep.endpoint

/-- A handshake that is over: what waits can be written or reported, the peer's key can be copied,
and if it is refused its session is removed. -/
def FinishClean (tep : Peer Cert) (ssl : MbedSsl Cert) (io : SslIo Cert) : Prop :=
  (tep.data.isClient = true → io.notified = true → AllWritable tep.data.cacheList io.writes)
    ∧ (io.notified = false → Reportable tep)
    ∧ (isCertless ssl.ciphersuite = false →
        match ssl.peerCert with
        | none => OwnFirst s tep.endpoint
        | some cert =>
          lib.writePubkeyDer cert ≠ none
            ∧ ((∃ name, CertIdentity.pickedName (lib.subject cert) = some name
                ∧ (uuidBehind CertIdentity.uuidPrefix name = some none
                  ∨ uuidBehind userIdPrefix name = some none)) → OwnFirst s tep.endpoint))

def ReadClean : SslRead → Prop
  | .closed => OwnFirst s tep.endpoint
  | .failed => OwnFirst s tep.endpoint
  | _ => hasAdapterIndex tep.endpoint.adapter = false → OwnFirst s tep.endpoint

end

def SessionClean (tep : Peer Cert) (io : SslIo Cert) : Prop :=
  if tep.data.ssl.state = .handshakeOver then ReadClean s tep io.read
  else
    match decryptLoop lib tep.data.ssl io.steps with
    | (_, .failed ret) => FailureClean s tep ret
    | (_, .unverified flags) => FailureClean s tep (flagsInt flags)
    | (_, .badChain) => False
    | (ssl, .isOver) => FinishClean lib s tep ssl io
    -- the handshake does not end in a step that waits
    | (ssl, _) => ssl.state ≠ .handshakeOver

def EncryptClean (s : Table Cert) (endpoint : CAEndpoint) (message : List UInt8)
    (io : SslIo Cert) : Prop :=
  match getSslPeer s.peerList endpoint with
  | some tep => SendClean s tep tep.data.ssl message io
  | none =>
    io.cipherSetUp = true →
      match initiateLoop .setUp io.steps with
      | (_, .socketError) => OwnFirst s endpoint
      | (_, .failed _) => False
      | (ssl, _) => SendClean s ⟨endpoint, .new s.next true⟩ ssl message io

def DecryptClean (endpoint : CAEndpoint) (io : SslIo Cert) : Prop :=
  match getSslPeer s.peerList endpoint with
  | some tep => SessionClean lib s tep io
  | none => io.cipherSetUp = true → SessionClean lib s ⟨endpoint, .new s.next false⟩ io

def CallClean : SslCall Cert → Prop
  | .encrypt endpoint message io => message ≠ [] → EncryptClean s endpoint message io
  | .decrypt endpoint io => DecryptClean lib s endpoint io
  | .close endpoint =>
    ∀ tep, getSslPeer s.peerList endpoint = some tep → OwnFirst s tep.endpoint
  | .closeAll _ => True

end

/-! ## What a call does to one session -/

def SslEvent.quiet : SslEvent Cert → Bool
  | .refused _ => true
  | .delivered _ _ => true
  | .returned _ => true
  | _ => false

structure Silent (events : List (SslEvent Cert)) : Prop where
  opened : events.filterMap SslEvent.opened? = []
  closed : events.filterMap SslEvent.closed? = []
  freed : events.filterMap SslEvent.freed? = []
  accepted : ∀ a, events.filterMap (SslEvent.accepted? a) = []
  handled : ∀ a, events.filterMap (SslEvent.handled? a) = []

lemma silent_of_quiet {events : List (SslEvent Cert)} (hquiet : ∀ e ∈ events, e.quiet = true) :
    Silent events := by
  have hsilent : ∀ {β : Type} (f : SslEvent Cert → Option β),
      (∀ e : SslEvent Cert, e.quiet = true → f e = none) → events.filterMap f = [] :=
    fun f hf => List.filterMap_eq_nil_iff.mpr (fun e he => hf e (hquiet e he))
  constructor
  · exact hsilent _ (fun e he => by cases e <;> first | rfl | cases he)
  · exact hsilent _ (fun e he => by cases e <;> first | rfl | cases he)
  · exact hsilent _ (fun e he => by cases e <;> first | rfl | cases he)
  · exact fun a => hsilent _ (fun e he => by cases e <;> first | rfl | cases he)
  · exact fun a => hsilent _ (fun e he => by cases e <;> first | rfl | cases he)

structure Effect (d : Session Cert) (left : Option (Session Cert))
    (events : List (SslEvent Cert)) : Prop where
  same : ∀ session ∈ left, session.address = d.address ∧ session.isClient = d.isClient
  opened : events.filterMap SslEvent.opened? = []
  closed : events.filterMap SslEvent.closed? = []
  freed : events.filterMap SslEvent.freed? = if left.isNone then [d.address] else []
  elsewhere : ∀ a, a ≠ d.address → events.filterMap (SslEvent.accepted? a) = []
    ∧ events.filterMap (SslEvent.handled? a) = []
  server : d.isClient = false → events.filterMap (SslEvent.accepted? d.address) = []
    ∧ events.filterMap (SslEvent.handled? d.address) = []
  client : d.isClient = true → d.cacheList ++ events.filterMap (SslEvent.accepted? d.address)
    = events.filterMap (SslEvent.handled? d.address) ++ left.elim [] Session.cacheList
  fails : events.any SslEvent.fails = true → left = none

namespace Effect

variable {d d₁ : Session Cert} {left : Option (Session Cert)}
  {events events₁ : List (SslEvent Cert)}

lemma change (haddress : d₁.address = d.address) (hrole : d₁.isClient = d.isClient)
    (hcache : d₁.cacheList = d.cacheList) : Effect d (some d₁) [] where
  same := by
    rintro session ⟨⟩
    exact ⟨haddress, hrole⟩
  opened := rfl
  closed := rfl
  freed := rfl
  elsewhere := fun _ _ => ⟨rfl, rfl⟩
  server := fun _ => ⟨rfl, rfl⟩
  client := fun _ => by
    simp only [List.filterMap_nil, append_nil, nil_append, elim_some]
    exact hcache.symm
  fails := fun h => absurd h Bool.false_ne_true

lemma trans (h₁ : Effect d (some d₁) events₁) (h : Effect d₁ left events) :
    Effect d left (events₁ ++ events) := by
  obtain ⟨haddress, hrole⟩ := h₁.same d₁ rfl
  constructor
  · intro session hsession
    obtain ⟨ha, hr⟩ := h.same session hsession
    exact ⟨ha.trans haddress, hr.trans hrole⟩
  · rw [filterMap_append, h₁.opened, h.opened, append_nil]
  · rw [filterMap_append, h₁.closed, h.closed, append_nil]
  · rw [filterMap_append, h₁.freed, h.freed, haddress]
    exact nil_append _
  · intro a ha
    have h₁' := h₁.elsewhere a ha
    have h' := h.elsewhere a (by rw [haddress]; exact ha)
    rw [filterMap_append, filterMap_append, h₁'.1, h₁'.2, h'.1, h'.2]
    exact ⟨rfl, rfl⟩
  · intro hserver
    have h₁' := h₁.server hserver
    have h' := h.server (hrole.trans hserver)
    rw [haddress] at h'
    rw [filterMap_append, filterMap_append, h₁'.1, h₁'.2, h'.1, h'.2]
    exact ⟨rfl, rfl⟩
  · intro hclient
    have h₁' := h₁.client hclient
    have h' := h.client (hrole.trans hclient)
    rw [haddress] at h'
    rw [elim_some] at h₁'
    rw [filterMap_append, filterMap_append, ← append_assoc, h₁', append_assoc, h', append_assoc]
  · intro hfails
    rw [List.any_append, Bool.or_eq_true] at hfails
    obtain hfails | hfails := hfails
    · exact absurd (h₁.fails hfails) (Option.some_ne_none d₁)
    · exact h.fails hfails

lemma say (h : Effect d left events₁) (hquiet : ∀ e ∈ events, e.quiet = true)
    (hfails : events.any SslEvent.fails = true → left = none) :
    Effect d left (events₁ ++ events) := by
  have hsilent := silent_of_quiet hquiet
  constructor
  · exact h.same
  · rw [filterMap_append, hsilent.opened, append_nil]
    exact h.opened
  · rw [filterMap_append, hsilent.closed, append_nil]
    exact h.closed
  · rw [filterMap_append, hsilent.freed, append_nil]
    exact h.freed
  · intro a ha
    rw [filterMap_append, filterMap_append, hsilent.accepted, hsilent.handled,
      append_nil, append_nil]
    exact h.elsewhere a ha
  · intro hserver
    rw [filterMap_append, filterMap_append, hsilent.accepted, hsilent.handled,
      append_nil, append_nil]
    exact h.server hserver
  · intro hclient
    rw [filterMap_append, filterMap_append, hsilent.accepted, hsilent.handled,
      append_nil, append_nil]
    exact h.client hclient
  · intro hany
    rw [List.any_append, Bool.or_eq_true] at hany
    exact hany.elim h.fails hfails

lemma refl (d : Session Cert) : Effect d (some d) [] := change rfl rfl rfl

lemma steps (d : Session Cert) (ssl : MbedSsl Cert) : Effect d (some { d with ssl := ssl }) [] :=
  change rfl rfl rfl

lemma freed_of (hidle : d.isClient = true → d.cacheList = []) :
    Effect d none [.freed d.address] where
  same := fun _ hsession => absurd hsession (not_mem_none _)
  opened := rfl
  closed := rfl
  freed := rfl
  elsewhere := fun _ _ => ⟨rfl, rfl⟩
  server := fun _ => ⟨rfl, rfl⟩
  client := fun hclient => by rw [hidle hclient]; rfl
  fails := fun _ => rfl

lemma accept (d : Session Cert) (message : List UInt8) :
    Effect d (some { d with cacheList := d.cacheList ++ [message] })
      [.accepted d.address d.isClient message] where
  same := by
    rintro session ⟨⟩
    exact ⟨rfl, rfl⟩
  opened := rfl
  closed := rfl
  freed := rfl
  elsewhere := fun a ha => by
    simp [filterMap_cons, SslEvent.accepted?, SslEvent.handled?,
      if_neg (fun h : d.isClient = true ∧ d.address = a => ha h.2.symm)]
  server := fun hserver => by
    simp [filterMap_cons, SslEvent.accepted?, SslEvent.handled?, hserver]
  client := fun hclient => by
    simp [filterMap_cons, SslEvent.accepted?, SslEvent.handled?, hclient]
  fails := fun h => absurd h Bool.false_ne_true

lemma direct (d : Session Cert) (message : List UInt8)
    (hidle : d.isClient = true → d.cacheList = []) :
    Effect d (some d) [.accepted d.address d.isClient message,
      .wrote d.address d.isClient message] where
  same := by
    rintro session ⟨⟩
    exact ⟨rfl, rfl⟩
  opened := rfl
  closed := rfl
  freed := rfl
  elsewhere := fun a ha => by
    simp [filterMap_cons, SslEvent.accepted?, SslEvent.handled?,
      if_neg (fun h : d.isClient = true ∧ d.address = a => ha h.2.symm)]
  server := fun hserver => by
    simp [filterMap_cons, SslEvent.accepted?, SslEvent.handled?, hserver]
  client := fun hclient => by
    simp [filterMap_cons, SslEvent.accepted?, SslEvent.handled?, hclient, hidle hclient]
  fails := fun h => absurd h Bool.false_ne_true

lemma handle_all (hclient : d.isClient = true)
    (hkinds : ∀ e ∈ events, e.opened? = none ∧ e.closed? = none ∧ e.freed? = none
      ∧ (∀ a, e.accepted? a = none) ∧ (∀ a, a ≠ d.address → e.handled? a = none)
      ∧ e.fails = false)
    (hhandled : events.filterMap (SslEvent.handled? d.address) = d.cacheList) :
    Effect d (some { d with cacheList := [] }) events where
  same := by
    rintro session ⟨⟩
    exact ⟨rfl, rfl⟩
  opened := List.filterMap_eq_nil_iff.mpr (fun e he => (hkinds e he).1)
  closed := List.filterMap_eq_nil_iff.mpr (fun e he => (hkinds e he).2.1)
  freed := List.filterMap_eq_nil_iff.mpr (fun e he => (hkinds e he).2.2.1)
  elsewhere := fun a ha =>
    ⟨List.filterMap_eq_nil_iff.mpr (fun e he => (hkinds e he).2.2.2.1 a),
      List.filterMap_eq_nil_iff.mpr (fun e he => (hkinds e he).2.2.2.2.1 a ha)⟩
  server := fun hserver => absurd (hserver.symm.trans hclient) Bool.false_ne_true
  client := fun _ => by
    rw [hhandled, List.filterMap_eq_nil_iff.mpr (fun e he => (hkinds e he).2.2.2.1 d.address)]
    rfl
  fails := fun hany => by
    obtain ⟨e, he, hfails⟩ := List.any_eq_true.mp hany
    exact absurd ((hkinds e he).2.2.2.2.2.symm.trans hfails) Bool.false_ne_true

lemma writeAll_cache (hclient : d.isClient = true) {writes : List (List ℤ)}
    (hall : AllWritable d.cacheList writes) :
    Effect d (some { d with cacheList := [] }) (writeCache d.address d.cacheList writes) := by
  have hevents : ∀ (messages : List (List UInt8)) (writes : List (List ℤ)),
      AllWritable messages writes → (writeCache d.address messages writes : List (SslEvent Cert))
        = messages.map (SslEvent.wrote d.address true) := by
    intro messages
    induction messages with
    | nil => exact fun _ _ => rfl
    | cons message rest ih =>
      rintro writes ⟨hfirst, hrest⟩
      have hwritten : writeAll message.length 0 (writes.headD []) = true := hfirst
      rw [writeCache, if_pos hwritten, ih _ hrest]
      rfl
  rw [hevents d.cacheList writes hall]
  refine handle_all hclient (fun e he => ?_) ?_
  · obtain ⟨message, _, rfl⟩ := List.mem_map.mp he
    exact ⟨rfl, rfl, rfl, fun _ => rfl, fun a ha => if_neg (ha ·.2.symm), rfl⟩
  · rw [List.filterMap_map]
    refine (List.filterMap_congr (fun message _ => ?_)).trans (List.filterMap_some)
    exact if_pos ⟨rfl, rfl⟩

lemma reportAll_cache {tep : Peer Cert} (hclient : tep.data.isClient = true)
    (hreport : Reportable tep) :
    Effect tep.data (some { tep.data with cacheList := [] }) (reportCache tep) := by
  have hevents : reportCache tep = tep.data.cacheList.map (SslEvent.reported tep.data.address) := by
    unfold reportCache
    by_cases hempty : tep.data.cacheList = []
    · simp [hempty]
    · rw [if_pos (hreport hclient hempty)]
  rw [hevents]
  refine handle_all hclient (fun e he => ?_) ?_
  · obtain ⟨message, _, rfl⟩ := List.mem_map.mp he
    exact ⟨rfl, rfl, rfl, fun _ => rfl, fun a ha => if_neg (ha ·.symm), rfl⟩
  · rw [List.filterMap_map]
    refine (List.filterMap_congr (fun message _ => ?_)).trans (List.filterMap_some)
    exact if_pos rfl

end Effect

/-! ## A session in its place -/

def Session.Idle (d : Session Cert) : Prop :=
  d.isClient = true → d.ssl.state = .handshakeOver → d.cacheList = []

def place (before after : List (Peer Cert)) (next : ℕ) (endpoint : CAEndpoint)
    (left : Option (Session Cert)) : Table Cert :=
  ⟨before ++ ((left.map (SslEndPoint.mk endpoint)).toList ++ after), next⟩

def Acts (before after : List (Peer Cert)) (next : ℕ) (tep : Peer Cert)
    (r : Table Cert × List (SslEvent Cert)) : Prop :=
  ∃ left, r.1 = place before after next tep.endpoint left ∧ Effect tep.data left r.2
    ∧ ∀ session ∈ left, session.Idle

section Place

variable {before after : List (Peer Cert)} {next : ℕ} {tep : Peer Cert}
  {r : Table Cert × List (SslEvent Cert)} {events : List (SslEvent Cert)}

lemma setPeer_place (hapart : ∀ o ∈ before, peerKey o.endpoint ≠ peerKey tep.endpoint)
    (d session : Session Cert) :
    setPeer (place before after next tep.endpoint (some d)) tep session
      = place before after next tep.endpoint (some session) := by
  have hmodify : ∀ l : List (Peer Cert), (∀ o ∈ l, peerKey o.endpoint ≠ peerKey tep.endpoint) →
      FirstMatch.modify (fun t : Peer Cert => peerKey t.endpoint) (peerKey tep.endpoint)
        ({ · with data := session }) (l ++ ⟨tep.endpoint, d⟩ :: after)
        = l ++ ⟨tep.endpoint, session⟩ :: after := by
    intro l hl
    induction l with
    | nil => exact if_pos rfl
    | cons o l ih =>
      obtain ⟨ho, hl⟩ := forall_mem_cons.mp hl
      rw [cons_append, FirstMatch.modify, if_neg ho, ih hl, cons_append]
  exact congrArg (Table.mk · next) (hmodify before hapart)

lemma removePeer_place {endpoint : CAEndpoint}
    (hown : ∀ o ∈ before, removalKey o.endpoint ≠ removalKey endpoint) (d : Session Cert) :
    removePeer (place before after next endpoint (some d)) endpoint
      = (place before after next endpoint none, [.freed d.address]) := by
  have hlookup : FirstMatch.lookup (fun t : Peer Cert => removalKey t.endpoint)
      (removalKey endpoint) (before ++ ⟨endpoint, d⟩ :: after) = some ⟨endpoint, d⟩ := by
    rw [FirstMatch.lookup, List.find?_append, find?_eq_none.mpr (fun o ho => by
      simpa only [decide_eq_true_eq] using hown o ho), Option.none_or, List.find?_cons_of_pos]
    simp
  have herase : FirstMatch.erase (fun t : Peer Cert => removalKey t.endpoint)
      (removalKey endpoint) (before ++ ⟨endpoint, d⟩ :: after) = before ++ after := by
    rw [FirstMatch.erase, List.eraseP_append_right _ (fun o ho => by
      simpa only [decide_eq_true_eq] using hown o ho), List.eraseP_cons_of_pos]
    simp
  unfold removePeer Ssl.removePeerFromList
  refine Prod.ext (congrArg (Table.mk · next) herase) ?_
  simp only [place, map_some, toList_some, cons_append, nil_append]
  rw [hlookup]

lemma sslOperationFailed_place (tep : Peer Cert)
    (hapart : ∀ o ∈ before, peerKey o.endpoint ≠ peerKey tep.endpoint)
    (hown : ∀ o ∈ before, removalKey o.endpoint ≠ removalKey tep.endpoint) {ret : ℤ}
    (hreport : Reportable tep)
    (hret : tep.data.isClient = true → tep.data.cacheList ≠ [] → ret ≠ badHsClientHello) :
    ∃ events, sslOperationFailed (place before after next tep.endpoint (some tep.data)) tep ret
        = (place before after next tep.endpoint none, events)
      ∧ Effect tep.data none events := by
  unfold sslOperationFailed
  by_cases hclient : tep.data.isClient = true
  · by_cases hhello : ret ≠ badHsClientHello
    · rw [if_pos ⟨hhello, hclient⟩, setPeer_place hapart, removePeer_place hown]
      exact ⟨_, rfl, (Effect.reportAll_cache hclient hreport).trans
        (Effect.freed_of (fun _ => rfl))⟩
    rw [if_neg (hhello ·.1), removePeer_place hown]
    refine ⟨_, rfl, Effect.freed_of (fun _ => ?_)⟩
    by_contra hcache
    exact hhello (hret hclient hcache)
  rw [if_neg (hclient ·.2), removePeer_place hown]
  exact ⟨_, rfl, Effect.freed_of (absurd · hclient)⟩

lemma Acts.gone (h : r = (place before after next tep.endpoint none, events))
    (heffect : Effect tep.data none events) {last : List (SslEvent Cert)}
    (hquiet : ∀ e ∈ last, e.quiet = true) :
    Acts before after next tep (r.1, r.2 ++ last) := by
  subst h
  exact ⟨none, rfl, heffect.say hquiet (fun _ => rfl),
    fun _ hsession => absurd hsession (not_mem_none _)⟩

lemma Acts.lift {d₁ : Session Cert} (h₁ : Effect tep.data (some d₁) [])
    (h : Acts before after next ⟨tep.endpoint, d₁⟩ r) : Acts before after next tep r := by
  obtain ⟨left, hplace, heffect, hidle⟩ := h
  exact ⟨left, hplace, h₁.trans heffect, hidle⟩

variable {io : SslIo Cert}

lemma sendTo_acts (hapart : ∀ o ∈ before, peerKey o.endpoint ≠ peerKey tep.endpoint)
    (hidle : tep.data.Idle) {message : List UInt8}
    (hown : tep.data.ssl.state = .handshakeOver → ¬ Writable message (io.writes.headD []) →
      ∀ o ∈ before, removalKey o.endpoint ≠ removalKey tep.endpoint) :
    Acts before after next tep
      (sendTo (place before after next tep.endpoint (some tep.data)) tep message io) := by
  unfold sendTo
  by_cases hover : tep.data.ssl.state = .handshakeOver
  · rw [if_pos hover]
    by_cases hwrite : writeAll message.length 0 (io.writes.headD []) = true
    · rw [if_pos hwrite]
      refine ⟨some tep.data, rfl, ?_, ?_⟩
      · exact (Effect.direct tep.data message (hidle · hover)).say
          (List.forall_mem_singleton.mpr rfl) (absurd · Bool.false_ne_true)
      · rintro session ⟨⟩
        exact hidle
    rw [if_neg hwrite]
    exact Acts.gone (removePeer_place (hown hover hwrite) tep.data)
      (Effect.freed_of (hidle · hover)) (List.forall_mem_singleton.mpr rfl)
  rw [if_neg hover, setPeer_place hapart]
  refine ⟨_, rfl, ?_, ?_⟩
  · exact (Effect.accept tep.data message).say (List.forall_mem_singleton.mpr rfl)
      (absurd · Bool.false_ne_true)
  · rintro session ⟨⟩
    exact fun _ h => absurd h hover

lemma readData_cases (s : Table Cert) (tep : Peer Cert) (read : SslRead) :
    readData s tep read = (s, [.returned .ok])
      ∨ (∃ bytes, readData s tep read = (s, [.delivered tep.data bytes, .returned .ok]))
      ∨ (read = .closed ∨ read = .failed ∨ hasAdapterIndex tep.endpoint.adapter = false)
        ∧ ∃ result, readData s tep read
          = ((removePeer s tep.endpoint).1, (removePeer s tep.endpoint).2
            ++ [.returned result]) := by
  by_cases hclosed : read = .closed
  · subst hclosed
    exact .inr (.inr ⟨.inl rfl, _, rfl⟩)
  by_cases hindex : hasAdapterIndex tep.endpoint.adapter = true
  · cases read with
    | closed => exact absurd rfl hclosed
    | failed => exact .inr (.inr ⟨.inr (.inl rfl), _, if_pos hindex⟩)
    | nothing => exact .inl (if_pos hindex)
    | data bytes =>
      by_cases hgatt : tep.endpoint.adapter = Ssl.caAdapterGattBtle
      · exact .inl ((if_pos hindex).trans (if_pos hgatt))
      · exact .inr (.inl ⟨bytes, (if_pos hindex).trans (if_neg hgatt)⟩)
  refine .inr (.inr ⟨.inr (.inr (Bool.eq_false_iff.mpr hindex)), .failed, ?_⟩)
  cases read with
  | closed => exact absurd rfl hclosed
  | failed | nothing | data => exact if_neg hindex

lemma readData_acts (hidle : tep.data.isClient = true → tep.data.cacheList = []) {read : SslRead}
    (hown : read = .closed ∨ read = .failed ∨ hasAdapterIndex tep.endpoint.adapter = false →
      ∀ o ∈ before, removalKey o.endpoint ≠ removalKey tep.endpoint) :
    Acts before after next tep
      (readData (place before after next tep.endpoint (some tep.data)) tep read) := by
  have hkept : ∀ last : List (SslEvent Cert), (∀ e ∈ last, e.quiet = true) →
      last.any SslEvent.fails = false → Acts before after next tep
        (place before after next tep.endpoint (some tep.data), last) := by
    intro last hquiet hfails
    refine ⟨some tep.data, rfl, ?_, ?_⟩
    · exact (Effect.refl tep.data).say hquiet
        (fun h => absurd (hfails.symm.trans h) Bool.false_ne_true)
    · rintro session ⟨⟩
      exact fun hclient _ => hidle hclient
  obtain hsaid | ⟨bytes, hgiven⟩ | ⟨hends, result, hremoved⟩ :=
    readData_cases (place before after next tep.endpoint (some tep.data)) tep read
  · rw [hsaid]
    exact hkept _ (List.forall_mem_singleton.mpr rfl) rfl
  · rw [hgiven]
    exact hkept _ (forall_mem_cons.mpr ⟨rfl, List.forall_mem_singleton.mpr rfl⟩) rfl
  · rw [hremoved]
    exact Acts.gone (removePeer_place (hown hends) tep.data) (Effect.freed_of hidle)
      (List.forall_mem_singleton.mpr rfl)

structure SameMessages (session d : Session Cert) : Prop where
  address : session.address = d.address
  isClient : session.isClient = d.isClient
  cacheList : session.cacheList = d.cacheList

variable {session : Session Cert}

lemma SameMessages.effect {d : Session Cert} (h : SameMessages session d) :
    Effect d (some session) [] :=
  Effect.change h.address h.isClient h.cacheList

lemma takeCert_spec (lib : CertLib Cert) (d : Session Cert) :
    (takeCert lib d = .noCert ∧ d.ssl.peerCert = none) ∨ ∃ cert, d.ssl.peerCert = some cert
        ∧ ((takeCert lib d = .noKey ∧ lib.writePubkeyDer cert = none)
          ∨ ∃ session, SameMessages session d
            ∧ (takeCert lib d = .set session
              ∨ (takeCert lib d = .noUuid session
                ∧ ∃ name, CertIdentity.pickedName (lib.subject cert) = some name
                  ∧ (uuidBehind CertIdentity.uuidPrefix name = some none
                    ∨ uuidBehind userIdPrefix name = some none)))) := by
  unfold takeCert
  cases hcert : d.ssl.peerCert with
  | none => exact .inl ⟨rfl, rfl⟩
  | some cert =>
    refine .inr ⟨cert, rfl, ?_⟩
    simp only
    cases hkey : lib.writePubkeyDer cert with
    | none => exact .inl ⟨rfl, rfl⟩
    | some publicKey =>
      refine .inr ?_
      simp only
      cases hname : CertIdentity.pickedName (lib.subject cert) with
      | none => exact ⟨{ d with publicKey := publicKey }, ⟨rfl, rfl, rfl⟩, .inl rfl⟩
      | some name =>
        simp only
        split
        · rename_i huuid
          exact ⟨{ d with publicKey := publicKey }, ⟨rfl, rfl, rfl⟩,
            .inr ⟨rfl, name, rfl, .inl huuid⟩⟩
        split
        · rename_i huuid
          refine ⟨_, ?_, .inr ⟨rfl, name, rfl, .inr huuid⟩⟩
          exact ⟨rfl, rfl, rfl⟩
        refine ⟨_, ?_, .inl rfl⟩
        exact ⟨rfl, rfl, rfl⟩

lemma refuse_acts {sent : List (SslEvent Cert)}
    (hapart : ∀ o ∈ before, peerKey o.endpoint ≠ peerKey tep.endpoint)
    (hown : ∀ o ∈ before, removalKey o.endpoint ≠ removalKey tep.endpoint)
    (heffect : Effect tep.data (some session) sent)
    (hempty : session.isClient = true → session.cacheList = []) :
    Acts before after next tep
      ((sslOperationFailed (setPeer (place before after next tep.endpoint (some tep.data)) tep
          session) { tep with data := session } (-1)).1,
        sent ++ (sslOperationFailed (setPeer (place before after next tep.endpoint
          (some tep.data)) tep session) { tep with data := session } (-1)).2
          ++ [.refused session.address, .returned .failed]) := by
  rw [setPeer_place hapart]
  have hplace : ∃ events, sslOperationFailed (place before after next tep.endpoint (some session))
      ⟨tep.endpoint, session⟩ (-1) = (place before after next tep.endpoint none, events)
        ∧ Effect session none events :=
    sslOperationFailed_place ⟨tep.endpoint, session⟩ hapart hown
      (fun hclient hcache => absurd (hempty hclient) hcache)
      (fun hclient hcache => absurd (hempty hclient) hcache)
  obtain ⟨events, hfailed, hremoved⟩ := hplace
  rw [hfailed]
  exact Acts.gone rfl (heffect.trans hremoved)
    (forall_mem_cons.mpr ⟨rfl, List.forall_mem_singleton.mpr rfl⟩)

section

variable (lib : CertLib Cert) {s : Table Cert}
  (hapart : ∀ o ∈ before, peerKey o.endpoint ≠ peerKey tep.endpoint)
  (hown : OwnFirst s tep.endpoint → ∀ o ∈ before, removalKey o.endpoint ≠ removalKey tep.endpoint)
include hapart hown

lemma finishHandshake_acts (hclean : FinishClean lib s tep tep.data.ssl io) :
    Acts before after next tep
      (finishHandshake lib (place before after next tep.endpoint (some tep.data)) tep io) := by
  obtain ⟨hwrite, hreport, hcert⟩ := hclean
  unfold finishHandshake
  -- first what waits, and then a session that nothing waits for
  have hsent : ∃ (sent : List (SslEvent Cert)) (session : Session Cert),
      (if tep.data.isClient = true then
        if io.notified = true then writeCache tep.data.address tep.data.cacheList io.writes
        else reportCache tep
        else []) = sent
      ∧ (if tep.data.isClient = true then { tep.data with cacheList := [] } else tep.data) = session
      ∧ Effect tep.data (some session) sent ∧ session.ssl = tep.data.ssl
      ∧ (session.isClient = true → session.cacheList = []) := by
    by_cases hclient : tep.data.isClient = true
    · rw [if_pos hclient, if_pos hclient]
      refine ⟨_, _, rfl, rfl, ?_, rfl, fun _ => rfl⟩
      by_cases hnotified : io.notified = true
      · rw [if_pos hnotified]
        exact Effect.writeAll_cache hclient (hwrite hclient hnotified)
      rw [if_neg hnotified]
      exact Effect.reportAll_cache hclient (hreport (Bool.eq_false_iff.mpr hnotified))
    rw [if_neg hclient, if_neg hclient]
    exact ⟨[], tep.data, rfl, rfl, Effect.refl tep.data, rfl, fun h => absurd h hclient⟩
  obtain ⟨sent, session, hevents, hsession, heffect, hssl, hempty⟩ := hsent
  rw [hevents, hsession]
  simp only
  have hok : ∀ session' : Session Cert, SameMessages session' session → Acts before after next tep
        (setPeer (place before after next tep.endpoint (some tep.data)) tep session',
          sent ++ [.returned .ok]) := by
    intro session' hsame
    rw [setPeer_place hapart]
    refine ⟨some session', rfl, heffect.trans (hsame.effect.say
      (List.forall_mem_singleton.mpr rfl) (absurd · Bool.false_ne_true)), ?_⟩
    rintro _ ⟨⟩ hclient _
    rw [hsame.cacheList]
    exact hempty (hsame.isClient.symm.trans hclient)
  by_cases hcertless : isCertless session.ssl.ciphersuite = true
  · rw [if_pos hcertless]
    exact hok _ ⟨rfl, rfl, rfl⟩
  rw [if_neg hcertless]
  rw [hssl] at hcertless
  have hcert := hcert (Bool.eq_false_iff.mpr hcertless)
  rw [← hssl] at hcert
  obtain ⟨htake, hnone⟩ | ⟨cert, hsome, htake⟩ := takeCert_spec lib session
  · rw [hnone] at hcert
    rw [htake]
    exact refuse_acts hapart (hown hcert) heffect hempty
  rw [hsome] at hcert
  obtain ⟨_, hkey⟩ | ⟨session', hsame, htake | ⟨htake, hname⟩⟩ := htake
  · exact absurd hkey hcert.1
  · rw [htake]
    exact hok session' hsame
  · rw [htake]
    have heffect' := heffect.trans hsame.effect
    rw [append_nil] at heffect'
    refine refuse_acts hapart (hown (hcert.2 hname)) heffect' (fun hclient => ?_)
    rw [hsame.cacheList]
    exact hempty (hsame.isClient.symm.trans hclient)

lemma decryptWith_acts (hidle : tep.data.Idle) (hclean : SessionClean lib s tep io) :
    Acts before after next tep
      (decryptWith lib (place before after next tep.endpoint (some tep.data)) tep io) := by
  unfold SessionClean at hclean
  unfold decryptWith
  by_cases hover : tep.data.ssl.state = .handshakeOver
  · rw [if_pos hover] at hclean ⊢
    refine readData_acts (hidle · hover) (fun hread => hown ?_)
    cases hkind : io.read with
    | closed | failed => rw [hkind] at hclean; exact hclean
    | nothing | data =>
      rw [hkind] at hclean hread
      exact hclean ((hread.resolve_left SslRead.noConfusion).resolve_left SslRead.noConfusion)
  rw [if_neg hover] at hclean ⊢
  generalize decryptLoop lib tep.data.ssl io.steps = result at hclean ⊢
  obtain ⟨ssl, ended⟩ := result
  simp only at hclean ⊢
  have hapart' : ∀ o ∈ before, peerKey o.endpoint
    ≠ peerKey (SslEndPoint.mk tep.endpoint { tep.data with ssl := ssl }).endpoint := hapart
  rw [show setPeer (place before after next tep.endpoint (some tep.data))
      ⟨tep.endpoint, { tep.data with ssl := ssl }⟩ { tep.data with ssl := ssl }
        = place before after next tep.endpoint (some { tep.data with ssl := ssl }) from
    setPeer_place hapart' _ _]
  apply Acts.lift (Effect.steps tep.data ssl)
  have hwaits : ssl.state ≠ .handshakeOver → Acts before after next
      ⟨tep.endpoint, { tep.data with ssl := ssl }⟩
      (place before after next tep.endpoint (some { tep.data with ssl := ssl }),
        [.returned .ok]) := by
    intro hrunning
    refine ⟨_, rfl, (Effect.refl _).say (List.forall_mem_singleton.mpr rfl)
      (absurd · Bool.false_ne_true), ?_⟩
    rintro _ ⟨⟩
    exact fun _ h => absurd h hrunning
  have hfails : ∀ ret, FailureClean s tep ret → ∀ last : List (SslEvent Cert),
      (∀ e ∈ last, e.quiet = true) → Acts before after next
        ⟨tep.endpoint, { tep.data with ssl := ssl }⟩
        ((sslOperationFailed (place before after next tep.endpoint
            (some { tep.data with ssl := ssl }))
            ⟨tep.endpoint, { tep.data with ssl := ssl }⟩ ret).1,
          (sslOperationFailed (place before after next tep.endpoint
            (some { tep.data with ssl := ssl }))
            ⟨tep.endpoint, { tep.data with ssl := ssl }⟩ ret).2 ++ last) := by
    rintro ret ⟨hfirst, hreport, hret⟩ last hquiet
    obtain ⟨events, hfailed, hremoved⟩ := sslOperationFailed_place
      ⟨tep.endpoint, { tep.data with ssl := ssl }⟩ hapart' (hown hfirst) hreport hret
    exact Acts.gone hfailed hremoved hquiet
  cases ended with
  | waits | socketError =>
    rw [if_neg hclean]
    exact hwaits hclean
  | failed ret => exact hfails ret hclean _ (List.forall_mem_singleton.mpr rfl)
  | unverified flags =>
    exact hfails (flagsInt flags) hclean _
      (forall_mem_cons.mpr ⟨rfl, List.forall_mem_singleton.mpr rfl⟩)
  | badChain => exact hclean.elim
  | isOver => exact finishHandshake_acts lib hapart' hown hclean

end

end Place

/-! ## What a run keeps -/

/-- What was accepted for a session and what was done with it, when `waiting` is left. -/
structure Balanced (log : List (SslEvent Cert)) (d : Session Cert) : Prop where
  server : d.isClient = false → log.filterMap (SslEvent.accepted? d.address) = []
    ∧ log.filterMap (SslEvent.handled? d.address) = []
  client : d.isClient = true → log.filterMap (SslEvent.accepted? d.address)
    = log.filterMap (SslEvent.handled? d.address) ++ d.cacheList

structure Inv (s : Table Cert) (log : List (SslEvent Cert)) : Prop where
  keys : (s.peerList.map (peerKey ·.endpoint)).Nodup
  opened : (log.filterMap SslEvent.opened?).Nodup
  fresh : ∀ a ∈ log.filterMap SslEvent.opened?, a < s.next
  released : (log.filterMap SslEvent.freed? ++ s.peerList.map (·.data.address)).Perm
    (log.filterMap SslEvent.opened?)
  idle : ∀ tep ∈ s.peerList, tep.data.Idle
  balanced : ∀ tep ∈ s.peerList, Balanced log tep.data
  gone : ∀ a, a ∉ s.peerList.map (·.data.address) → a ∉ log.filterMap SslEvent.closed? →
      log.filterMap (SslEvent.accepted? a) = log.filterMap (SslEvent.handled? a)
  cut : ∀ a, log.filterMap (SslEvent.handled? a) <+: log.filterMap (SslEvent.accepted? a)
  unborn : ∀ a, a ∉ log.filterMap SslEvent.opened? → log.filterMap (SslEvent.accepted? a) = []
    ∧ log.filterMap (SslEvent.handled? a) = []

lemma inv_empty : Inv (Table.empty : Table Cert) [] where
  keys := List.nodup_nil
  opened := List.nodup_nil
  fresh := fun _ ha => absurd ha not_mem_nil
  released := List.Perm.refl _
  idle := fun _ htep => absurd htep not_mem_nil
  balanced := fun _ htep => absurd htep not_mem_nil
  gone := fun _ _ _ => rfl
  cut := fun _ => List.prefix_refl _
  unborn := fun _ _ => ⟨rfl, rfl⟩

variable {s : Table Cert} {log events : List (SslEvent Cert)}

lemma Inv.right (h : Inv s log) : TableRight s log where
  unique := by
    have hkeys := h.keys
    refine List.Nodup.of_map (fun key : UInt32 × List UInt8 × UInt16 =>
      (key.1, key.2.1, if key.1 = Ssl.caAdapterGattBtle then none else some key.2.2)) ?_
    rw [List.map_map]
    exact hkeys
  opened := h.opened
  released := h.released
  waiting := fun tep htep hclient => (h.balanced tep htep).client hclient
  gone := h.gone
  cut := h.cut

lemma Inv.addresses (h : Inv s log) :
    (log.filterMap SslEvent.freed? ++ s.peerList.map (·.data.address)).Nodup :=
  h.released.nodup_iff.mpr h.opened

lemma Inv.mem_opened (h : Inv s log) {tep : Peer Cert} (htep : tep ∈ s.peerList) :
    tep.data.address ∈ log.filterMap SslEvent.opened? :=
  h.released.subset (mem_append_right _ (mem_map_of_mem htep))

section Call

variable {before after : List (Peer Cert)} {next : ℕ} {endpoint : CAEndpoint} {d : Session Cert}
  {left : Option (Session Cert)}

lemma Balanced.effect (h : Balanced log d) (heffect : Effect d left events)
    {session : Session Cert} (hsession : session ∈ left) : Balanced (log ++ events) session := by
  obtain ⟨haddress, hrole⟩ := heffect.same session hsession
  constructor
  · intro hserver
    rw [hrole] at hserver
    obtain ⟨haccepted, hhandled⟩ := h.server hserver
    obtain ⟨haccepted', hhandled'⟩ := heffect.server hserver
    rw [haddress, filterMap_append, filterMap_append, haccepted, hhandled, haccepted', hhandled']
    exact ⟨rfl, rfl⟩
  · intro hclient
    rw [hrole] at hclient
    have hcall := heffect.client hclient
    rw [mem_def.mp hsession, elim_some] at hcall
    rw [haddress, filterMap_append, filterMap_append, h.client hclient,
      append_assoc, hcall, append_assoc]

lemma Balanced.congr {log' : List (SslEvent Cert)} (h : Balanced log d)
    (haccepted : ∀ a, log'.filterMap (SslEvent.accepted? a) = log.filterMap (SslEvent.accepted? a))
    (hhandled : ∀ a, log'.filterMap (SslEvent.handled? a)
      = log.filterMap (SslEvent.handled? a)) : Balanced log' d := by
  constructor
  · rw [haccepted, hhandled]
    exact h.server
  · rw [haccepted, hhandled]
    exact h.client

lemma Balanced.gone (h : Balanced log d) (heffect : Effect d none events) :
    (log ++ events).filterMap (SslEvent.accepted? d.address)
      = (log ++ events).filterMap (SslEvent.handled? d.address) := by
  cases hrole : d.isClient with
  | false =>
    obtain ⟨haccepted, hhandled⟩ := h.server hrole
    obtain ⟨haccepted', hhandled'⟩ := heffect.server hrole
    rw [filterMap_append, filterMap_append, haccepted, hhandled, haccepted', hhandled']
  | true =>
    have hcall := heffect.client hrole
    rw [Option.elim_none, append_nil] at hcall
    rw [filterMap_append, filterMap_append, h.client hrole, append_assoc, hcall]

lemma Balanced.other (heffect : Effect d left events)
    {other : Session Cert} (hother : Balanced log other) (hne : other.address ≠ d.address) :
    Balanced (log ++ events) other := by
  obtain ⟨haccepted, hhandled⟩ := heffect.elsewhere other.address hne
  constructor
  · intro hserver
    rw [filterMap_append, filterMap_append, haccepted, hhandled, append_nil, append_nil]
    exact hother.server hserver
  · intro hclient
    rw [filterMap_append, filterMap_append, haccepted, hhandled, append_nil, append_nil]
    exact hother.client hclient

lemma mem_place {tep : Peer Cert} : tep ∈ (place before after next endpoint left).peerList
    ↔ tep ∈ before ++ after ∨ ∃ session ∈ left, tep = ⟨endpoint, session⟩ := by
  unfold place
  simp only [List.mem_append, mem_toList, mem_def, map_eq_some_iff]
  constructor
  · rintro (hbefore | ⟨session, hsession, rfl⟩ | hafter)
    · exact .inl (.inl hbefore)
    · exact .inr ⟨session, hsession, rfl⟩
    · exact .inl (.inr hafter)
  · rintro ((hbefore | hafter) | ⟨session, hsession, rfl⟩)
    · exact .inl hbefore
    · exact .inr (.inr hafter)
    · exact .inr (.inl ⟨session, hsession, rfl⟩)

lemma place_addresses : (place before after next endpoint left).peerList.map
      (·.data.address)
    = before.map (·.data.address) ++ ((left.map Session.address).toList
      ++ after.map (·.data.address)) := by
  unfold place
  cases left <;> simp only [map_append, map_none, map_some, toList_none,
    toList_some, map_nil, map_cons]

lemma place_keys : (place before after next endpoint left).peerList.map
      (peerKey ·.endpoint)
    = before.map (peerKey ·.endpoint) ++ ((left.map (fun _ => peerKey endpoint)).toList
      ++ after.map (peerKey ·.endpoint)) := by
  unfold place
  cases left <;> simp only [map_append, map_none, map_some, toList_none,
    toList_some, map_nil, map_cons]

variable {other : Peer Cert}

lemma place_others_ne (hnodup : ((place before after next endpoint (some d)).peerList.map
      (·.data.address)).Nodup)
    (hother : other ∈ before ++ after) : other.data.address ≠ d.address := by
  rw [place_addresses, map_some, toList_some, singleton_append,
    List.nodup_middle, List.nodup_cons, ← map_append] at hnodup
  exact fun heq => hnodup.1 (List.mem_map.mpr ⟨other, hother, heq⟩)

lemma Inv.others_ne (h : Inv (place before after next endpoint (some d)) log)
    (hother : other ∈ before ++ after) : other.data.address ≠ d.address :=
  place_others_ne (List.nodup_append.mp h.addresses).2.1 hother

lemma Inv.call (h : Inv (place before after next endpoint (some d)) log)
    (heffect : Effect d left events) (hidle : ∀ session ∈ left, session.Idle) :
    Inv (place before after next endpoint left) (log ++ events) := by
  have hd : (⟨endpoint, d⟩ : Peer Cert) ∈ (place before after next endpoint (some d)).peerList :=
    mem_place.mpr (.inr ⟨d, rfl, rfl⟩)
  have hother : ∀ o ∈ before ++ after, o ∈ (place before after next endpoint (some d)).peerList :=
    fun o ho => mem_place.mpr (.inl ho)
  have hbalanced : Balanced log d := h.balanced _ hd
  have hopened : (log ++ events).filterMap SslEvent.opened? = log.filterMap SslEvent.opened? := by
    rw [filterMap_append, heffect.opened, append_nil]
  have hclosed : (log ++ events).filterMap SslEvent.closed? = log.filterMap SslEvent.closed? := by
    rw [filterMap_append, heffect.closed, append_nil]
  have helsewhere : ∀ a, a ≠ d.address →
      (log ++ events).filterMap (SslEvent.accepted? a) = log.filterMap (SslEvent.accepted? a)
      ∧ (log ++ events).filterMap (SslEvent.handled? a) = log.filterMap (SslEvent.handled? a) := by
    intro a ha
    obtain ⟨haccepted, hhandled⟩ := heffect.elsewhere a ha
    rw [filterMap_append, filterMap_append, haccepted, hhandled, append_nil, append_nil]
    exact ⟨rfl, rfl⟩
  constructor
  · have hkeys := h.keys
    rw [place_keys] at hkeys ⊢
    refine hkeys.sublist (List.Sublist.append_left (List.Sublist.append_right ?_ _) _)
    cases left with
    | none => exact List.nil_sublist _
    | some session => exact List.Sublist.refl _
  · rw [hopened]
    exact h.opened
  · rw [hopened]
    exact h.fresh
  · rw [hopened]
    refine List.Perm.trans ?_ h.released
    rw [filterMap_append, heffect.freed, place_addresses, place_addresses]
    cases left with
    | none =>
      simp only [Option.isNone_none, if_true, map_none, map_some, toList_none,
        toList_some, nil_append, append_assoc, singleton_append]
      exact List.Perm.append_left _ List.perm_middle.symm
    | some session =>
      simp only [Option.isNone_some, Bool.false_eq_true, if_false, append_nil,
        map_some, (heffect.same session rfl).1]
      exact List.Perm.refl _
  · intro tep htep
    obtain htep | ⟨session, hsession, rfl⟩ := mem_place.mp htep
    · exact h.idle tep (hother tep htep)
    · exact hidle session hsession
  · intro tep htep
    obtain htep | ⟨session, hsession, rfl⟩ := mem_place.mp htep
    · exact Balanced.other heffect (h.balanced tep (hother tep htep)) (h.others_ne htep)
    · exact hbalanced.effect heffect hsession
  · intro a ha haclosed
    rw [hclosed] at haclosed
    by_cases had : a = d.address
    · subst had
      cases left with
      | none => exact hbalanced.gone heffect
      | some session =>
        refine absurd (List.mem_map.mpr ⟨⟨endpoint, session⟩, ?_, ?_⟩) ha
        · exact mem_place.mpr (.inr ⟨session, rfl, rfl⟩)
        · exact (heffect.same session rfl).1
    rw [(helsewhere a had).1, (helsewhere a had).2]
    refine h.gone a (fun hold => ha ?_) haclosed
    obtain ⟨tep, htep, rfl⟩ := List.mem_map.mp hold
    obtain htep | ⟨session, hsession, rfl⟩ := mem_place.mp htep
    · exact mem_map_of_mem (mem_place.mpr (.inl htep))
    rw [← Option.some.inj hsession] at had
    exact absurd rfl had
  · intro a
    by_cases had : a = d.address
    · subst had
      cases left with
      | none => rw [hbalanced.gone heffect]
      | some session =>
        have hafter : Balanced (log ++ events) session := hbalanced.effect heffect rfl
        have haddress := (heffect.same session rfl).1
        rw [← haddress]
        cases hrole : session.isClient with
        | false =>
          rw [(hafter.server hrole).1, (hafter.server hrole).2]
        | true =>
          rw [hafter.client hrole]
          exact List.prefix_append _ _
    rw [(helsewhere a had).1, (helsewhere a had).2]
    exact h.cut a
  · intro a ha
    rw [hopened] at ha
    have had : a ≠ d.address := fun heq => ha (by rw [heq]; exact h.mem_opened hd)
    rw [(helsewhere a had).1, (helsewhere a had).2]
    exact h.unborn a ha

lemma Inv.say (h : Inv s log) (hquiet : ∀ e ∈ events, e.quiet = true) :
    Inv s (log ++ events) := by
  have hsilent := silent_of_quiet hquiet
  have haccepted : ∀ a, (log ++ events).filterMap (SslEvent.accepted? a)
      = log.filterMap (SslEvent.accepted? a) := fun a => by
    rw [filterMap_append, hsilent.accepted, append_nil]
  have hhandled : ∀ a, (log ++ events).filterMap (SslEvent.handled? a)
      = log.filterMap (SslEvent.handled? a) := fun a => by
    rw [filterMap_append, hsilent.handled, append_nil]
  have hopened : (log ++ events).filterMap SslEvent.opened? = log.filterMap SslEvent.opened? := by
    rw [filterMap_append, hsilent.opened, append_nil]
  constructor
  · exact h.keys
  · rw [hopened]
    exact h.opened
  · rw [hopened]
    exact h.fresh
  · rw [hopened, filterMap_append, hsilent.freed, append_nil]
    exact h.released
  · exact h.idle
  · exact fun tep htep => (h.balanced tep htep).congr haccepted hhandled
  · intro a ha haclosed
    rw [filterMap_append, hsilent.closed, append_nil] at haclosed
    rw [haccepted, hhandled]
    exact h.gone a ha haclosed
  · intro a
    rw [haccepted, hhandled]
    exact h.cut a
  · intro a ha
    rw [hopened] at ha
    rw [haccepted, hhandled]
    exact h.unborn a ha

lemma Inv.born (h : Inv s log) (isClient : Bool)
    (hnew : ∀ o ∈ s.peerList, peerKey o.endpoint ≠ peerKey endpoint) :
    Inv (place s.peerList [] (s.next + 1) endpoint (some (.new s.next isClient)))
      (log ++ [.opened s.next isClient]) := by
  have hfresh : s.next ∉ log.filterMap SslEvent.opened? :=
    fun hmem => absurd (h.fresh s.next hmem) (lt_irrefl _)
  have hopened : (log ++ [SslEvent.opened s.next isClient]).filterMap SslEvent.opened?
      = log.filterMap SslEvent.opened? ++ [s.next] := by
    rw [filterMap_append]
    rfl
  have hrest : ∀ {β : Type} (f : SslEvent Cert → Option β), f (.opened s.next isClient) = none →
        (log ++ [SslEvent.opened s.next isClient]).filterMap f = log.filterMap f := by
    intro β f hf
    simp [hf]
  have haccepted := fun a => hrest (SslEvent.accepted? a) rfl
  have hhandled := fun a => hrest (SslEvent.handled? a) rfl
  constructor
  · rw [place_keys, map_some, toList_some, map_nil, append_nil,
      ← List.concat_eq_append, List.nodup_concat]
    refine ⟨fun hmem => ?_, h.keys⟩
    obtain ⟨o, ho, hkey⟩ := List.mem_map.mp hmem
    exact hnew o ho hkey
  · rw [hopened, ← List.concat_eq_append, List.nodup_concat]
    exact ⟨hfresh, h.opened⟩
  · intro a ha
    rw [hopened] at ha
    obtain ha | ha := List.mem_append.mp ha
    · exact Nat.lt_succ_of_lt (h.fresh a ha)
    rw [mem_singleton.mp ha]
    exact Nat.lt_succ_self _
  · rw [hopened, hrest SslEvent.freed? rfl, place_addresses, map_some, toList_some,
      map_nil, append_nil, ← append_assoc]
    exact h.released.append_right _
  · intro tep htep
    obtain htep | ⟨session, hsession, rfl⟩ := mem_place.mp htep
    · rw [append_nil] at htep
      exact h.idle tep htep
    rw [← Option.some.inj hsession]
    exact fun _ _ => rfl
  · intro tep htep
    obtain htep | ⟨session, hsession, rfl⟩ := mem_place.mp htep
    · rw [append_nil] at htep
      exact (h.balanced tep htep).congr haccepted hhandled
    rw [← Option.some.inj hsession]
    obtain ⟨hnone, hnone'⟩ := h.unborn s.next hfresh
    constructor
    · rw [haccepted, hhandled]
      exact fun _ => ⟨hnone, hnone'⟩
    · rw [haccepted, hhandled]
      intro _
      simp [Session.new, hnone, hnone']
  · intro a ha haclosed
    rw [hrest SslEvent.closed? rfl] at haclosed
    rw [haccepted, hhandled]
    refine h.gone a (fun hold => ha ?_) haclosed
    rw [place_addresses]
    simp [hold]
  · intro a
    rw [haccepted, hhandled]
    exact h.cut a
  · intro a ha
    rw [hopened] at ha
    rw [haccepted, hhandled]
    exact h.unborn a (fun hold => ha (mem_append_left _ hold))

variable (closed : List (Peer Cert))

def closings : List (SslEvent Cert) :=
  closed.flatMap fun tep => [.closed tep.data.address, .freed tep.data.address]

lemma closings_opened : (closings closed).filterMap SslEvent.opened? = [] := by
  refine List.filterMap_eq_nil_iff.mpr (fun e he => ?_)
  obtain ⟨tep, _, he⟩ := List.mem_flatMap.mp he
  obtain rfl | he := List.mem_cons.mp he
  · rfl
  rw [mem_singleton.mp he]
  rfl

lemma closings_messages (a : ℕ) :
    (closings closed).filterMap (SslEvent.accepted? a) = []
      ∧ (closings closed).filterMap (SslEvent.handled? a) = [] := by
  have hnone : ∀ e ∈ closings closed, e.accepted? a = none ∧ e.handled? a = none := by
    intro e he
    obtain ⟨tep, _, he⟩ := List.mem_flatMap.mp he
    obtain rfl | he := List.mem_cons.mp he
    · exact ⟨rfl, rfl⟩
    rw [mem_singleton.mp he]
    exact ⟨rfl, rfl⟩
  exact ⟨List.filterMap_eq_nil_iff.mpr (fun e he => (hnone e he).1),
    List.filterMap_eq_nil_iff.mpr (fun e he => (hnone e he).2)⟩

lemma closings_addresses :
    (closings closed).filterMap SslEvent.freed? = closed.map (·.data.address)
      ∧ (closings closed).filterMap SslEvent.closed? = closed.map (·.data.address) := by
  induction closed with
  | nil => exact ⟨rfl, rfl⟩
  | cons tep rest ih =>
    obtain ⟨hfreed, hclosed⟩ := ih
    exact ⟨congrArg (tep.data.address :: ·) hfreed, congrArg (tep.data.address :: ·) hclosed⟩

lemma Inv.closeAll (h : Inv s log) (p : Peer Cert → Bool) :
    Inv ⟨s.peerList.filter p, s.next⟩ (log ++ closings (s.peerList.filter (!p ·)).reverse) := by
  generalize hclosed : (s.peerList.filter (!p ·)).reverse = closed
  have hopened : (log ++ closings closed).filterMap SslEvent.opened?
      = log.filterMap SslEvent.opened? := by
    rw [filterMap_append, closings_opened, append_nil]
  have haccepted : ∀ a, (log ++ closings closed).filterMap (SslEvent.accepted? a)
      = log.filterMap (SslEvent.accepted? a) := fun a => by
    rw [filterMap_append, (closings_messages _ a).1, append_nil]
  have hhandled : ∀ a, (log ++ closings closed).filterMap (SslEvent.handled? a)
      = log.filterMap (SslEvent.handled? a) := fun a => by
    rw [filterMap_append, (closings_messages _ a).2, append_nil]
  have hsub : ∀ tep ∈ s.peerList.filter p, tep ∈ s.peerList :=
    fun tep htep => (mem_filter.mp htep).1
  constructor
  · exact h.keys.sublist (List.filter_sublist.map _)
  · rw [hopened]
    exact h.opened
  · rw [hopened]
    exact h.fresh
  · rw [hopened, filterMap_append, (closings_addresses _).1, append_assoc]
    refine List.Perm.trans (List.Perm.append_left _ ?_) h.released
    rw [← map_append, ← hclosed]
    refine List.Perm.map _ ?_
    exact ((List.reverse_perm _).append_right _).trans
      (List.perm_append_comm.trans (List.filter_append_perm p s.peerList))
  · exact fun tep htep => h.idle tep (hsub tep htep)
  · exact fun tep htep => (h.balanced tep (hsub tep htep)).congr haccepted hhandled
  · intro a ha haclosed
    rw [filterMap_append, (closings_addresses _).2] at haclosed
    rw [haccepted, hhandled]
    refine h.gone a (fun hold => ?_) (fun hold => haclosed (mem_append_left _ hold))
    obtain ⟨tep, htep, rfl⟩ := List.mem_map.mp hold
    by_cases hp : p tep = true
    · exact ha (mem_map_of_mem (mem_filter.mpr ⟨htep, hp⟩))
    refine haclosed (mem_append_right _ (mem_map_of_mem ?_))
    rw [← hclosed]
    refine List.mem_reverse.mpr (mem_filter.mpr ⟨htep, ?_⟩)
    simpa only [Bool.not_eq_true', Bool.not_eq_true] using hp
  · intro a
    rw [haccepted, hhandled]
    exact h.cut a
  · intro a ha
    rw [hopened] at ha
    rw [haccepted, hhandled]
    exact h.unborn a ha

end Call

/-! ## Calls -/

section Step

variable {before after : List (Peer Cert)} {next : ℕ} {endpoint : CAEndpoint} {tep : Peer Cert}
  {r : Table Cert × List (SslEvent Cert)}

lemma place_of_lookup (hkeys : (s.peerList.map (peerKey ·.endpoint)).Nodup)
    (hfind : getSslPeer s.peerList endpoint = some tep) :
    ∃ before after, s = place before after s.next tep.endpoint (some tep.data)
      ∧ (∀ o ∈ before ++ after, peerKey o.endpoint ≠ peerKey tep.endpoint)
      ∧ peerKey tep.endpoint = peerKey endpoint := by
  obtain ⟨before, after, hlist, _⟩ := FirstMatch.split_of_lookup hfind
  have hplace : s = place before after s.next tep.endpoint (some tep.data) := by
    unfold place
    rw [map_some, toList_some, singleton_append, ← hlist]
  refine ⟨before, after, hplace, fun o ho heq => ?_,
    FirstMatch.key_of_lookup (fun tep : Peer Cert => peerKey tep.endpoint) hfind⟩
  rw [hplace, place_keys, map_some, toList_some, singleton_append,
    List.nodup_middle, List.nodup_cons, ← map_append] at hkeys
  exact hkeys.1 (List.mem_map.mpr ⟨o, ho, heq⟩)

lemma new_of_lookup (hfind : getSslPeer s.peerList endpoint = none) :
    ∀ o ∈ s.peerList, peerKey o.endpoint ≠ peerKey endpoint := by
  intro o ho heq
  exact find?_eq_none.mp hfind o ho (decide_eq_true heq)

lemma OwnFirst.front (hown : OwnFirst s endpoint) {rest : List (Peer Cert)}
    (hlist : s.peerList = before ++ rest)
    (hapart : ∀ o ∈ before, peerKey o.endpoint ≠ peerKey endpoint) :
    ∀ o ∈ before, removalKey o.endpoint ≠ removalKey endpoint := by
  intro o ho heq
  have hsome : (before.find? (removalKey ·.endpoint = removalKey endpoint)).isSome = true :=
    List.find?_isSome.mpr ⟨o, ho, decide_eq_true heq⟩
  obtain ⟨first, hfirst⟩ := Option.isSome_iff_exists.mp hsome
  refine hapart first (List.mem_of_find?_eq_some hfirst) (hown first ?_)
  simp [hlist, hfirst]

variable {left : Option (Session Cert)}

section

variable (hapart : ∀ o ∈ before ++ after, peerKey o.endpoint ≠ peerKey tep.endpoint)
  (hkey : peerKey tep.endpoint = peerKey endpoint)
include hapart hkey

lemma others_place :
    others (place before after next tep.endpoint left) endpoint = before ++ after := by
  rw [hkey] at hapart
  have hkept : ∀ l : List (Peer Cert), (∀ o ∈ l, peerKey o.endpoint ≠ peerKey endpoint) →
      l.filter (peerKey ·.endpoint ≠ peerKey endpoint) = l :=
    fun l hl => List.filter_eq_self.mpr (fun o ho => decide_eq_true (hl o ho))
  have hnone : ((left.map (SslEndPoint.mk tep.endpoint)).toList).filter
      (peerKey ·.endpoint ≠ peerKey endpoint) = [] := by
    refine List.filter_eq_nil_iff.mpr (fun o ho => ?_)
    obtain ⟨session, _, rfl⟩ := map_eq_some_iff.mp (mem_toList.mp ho)
    rw [decide_eq_true_eq, not_not]
    exact hkey
  unfold others place
  rw [filter_append, filter_append, hnone, nil_append,
    hkept before (fun o ho => hapart o (mem_append_left _ ho)),
    hkept after (fun o ho => hapart o (mem_append_right _ ho))]

lemma own_place :
    (place before after next tep.endpoint left).peerList.filter
        (fun o => !decide (peerKey o.endpoint ≠ peerKey endpoint))
      = (left.map (SslEndPoint.mk tep.endpoint)).toList := by
  rw [hkey] at hapart
  have hgone : ∀ l : List (Peer Cert), (∀ o ∈ l, peerKey o.endpoint ≠ peerKey endpoint) →
      l.filter (fun o => !decide (peerKey o.endpoint ≠ peerKey endpoint)) = [] :=
    fun l hl => List.filter_eq_nil_iff.mpr (fun o ho => by
      rw [decide_eq_true (hl o ho)]
      exact Bool.false_ne_true)
  have hkept : ((left.map (SslEndPoint.mk tep.endpoint)).toList).filter
      (fun o => !decide (peerKey o.endpoint ≠ peerKey endpoint))
        = (left.map (SslEndPoint.mk tep.endpoint)).toList := by
    refine List.filter_eq_self.mpr (fun o ho => ?_)
    obtain ⟨session, _, rfl⟩ := map_eq_some_iff.mp (mem_toList.mp ho)
    rw [hkey, decide_eq_false (· rfl)]
    rfl
  unfold place
  rw [filter_append, filter_append, hkept,
    hgone before (fun o ho => hapart o (mem_append_left _ ho)),
    hgone after (fun o ho => hapart o (mem_append_right _ ho)), nil_append,
    append_nil]

lemma lookup_place :
    getSslPeer (place before after next tep.endpoint none).peerList endpoint = none := by
  rw [hkey] at hapart
  exact find?_eq_none.mpr (fun o ho => by
    simpa only [decide_eq_true_eq] using hapart o ho)

end

lemma Acts.right (hacts : Acts before after next tep r)
    (hapart : ∀ o ∈ before ++ after, peerKey o.endpoint ≠ peerKey tep.endpoint)
    (hkey : peerKey tep.endpoint = peerKey endpoint) :
    others r.1 endpoint = before ++ after
      ∧ (r.2.any SslEvent.fails = true → getSslPeer r.1.peerList endpoint = none) := by
  obtain ⟨left, hplace, heffect, _⟩ := hacts
  rw [hplace]
  refine ⟨others_place hapart hkey, fun hfails => ?_⟩
  rw [heffect.fails hfails]
  exact lookup_place hapart hkey

lemma addPeer_place (s : Table Cert) (tep : Peer Cert) :
    addPeer s tep = place s.peerList [] (s.next + 1) tep.endpoint (some tep.data) := rfl

variable {io : SslIo Cert}

lemma initiate_acts (hnew : ∀ o ∈ s.peerList, peerKey o.endpoint ≠ peerKey endpoint)
    {message : List UInt8} (hfind : getSslPeer s.peerList endpoint = none)
    (hclean : EncryptClean s endpoint message io) :
    ∃ r, initiate s endpoint message io = (r.1, .opened s.next true :: r.2)
      ∧ Acts s.peerList [] (s.next + 1) ⟨endpoint, .new s.next true⟩ r := by
  unfold EncryptClean at hclean
  rw [hfind] at hclean
  unfold initiate
  by_cases hset : io.cipherSetUp = true
  · rw [if_pos hset]
    have hclean := hclean hset
    simp only [Session.new] at hclean ⊢
    generalize initiateLoop MbedSsl.setUp io.steps = result at hclean ⊢
    obtain ⟨ssl, ended⟩ := result
    refine ⟨_, rfl, ?_⟩
    have hfront : OwnFirst s endpoint →
        ∀ o ∈ s.peerList, removalKey o.endpoint ≠ removalKey endpoint :=
      fun hown => hown.front (append_nil _).symm hnew
    apply Acts.lift (Effect.steps (Session.new s.next true) ssl)
    have hsend : ∀ d₁ : Session Cert, d₁.cacheList = [] →
        (d₁.ssl.state = .handshakeOver → ¬ Writable message (io.writes.headD []) →
          OwnFirst s endpoint) →
        Acts s.peerList [] (s.next + 1) ⟨endpoint, d₁⟩
          (sendTo (addPeer s ⟨endpoint, d₁⟩) ⟨endpoint, d₁⟩ message io) := by
      intro d₁ hempty hclean
      rw [addPeer_place]
      exact sendTo_acts hnew (fun _ _ => hempty) (fun hover hwrite => hfront (hclean hover hwrite))
    cases ended with
    | waits => exact hsend _ rfl hclean
    | socketError =>
      refine Acts.gone ?_ (Effect.freed_of (fun _ => rfl)) (List.forall_mem_singleton.mpr rfl)
      exact removePeer_place (hfront hclean) _
    | failed ret => exact hclean.elim
    | unverified flags => exact hsend _ rfl hclean
    | badChain => exact hsend _ rfl hclean
    | isOver => exact hsend _ rfl hclean
  rw [if_neg hset]
  refine ⟨(⟨s.peerList, s.next + 1⟩, [.freed s.next, .returned .handshakeFailure]), rfl, none,
    ?_, ?_, fun _ hsession => absurd hsession (not_mem_none _)⟩
  · unfold place
    simp
  · exact (Effect.freed_of (fun _ => rfl)).say (List.forall_mem_singleton.mpr rfl) (fun _ => rfl)

lemma open_acts (hnew : ∀ o ∈ s.peerList, peerKey o.endpoint ≠ peerKey endpoint)
    {lib : CertLib Cert} (hfind : getSslPeer s.peerList endpoint = none)
    (hclean : DecryptClean lib s endpoint io) :
    ∃ r, decryptSsl lib s endpoint io = (r.1, .opened s.next false :: r.2)
      ∧ Acts s.peerList [] (s.next + 1) ⟨endpoint, .new s.next false⟩ r := by
  unfold DecryptClean at hclean
  unfold decryptSsl
  rw [hfind] at hclean ⊢
  simp only at hclean ⊢
  by_cases hset : io.cipherSetUp = true
  · rw [if_pos hset]
    refine ⟨_, rfl, ?_⟩
    rw [addPeer_place]
    exact decryptWith_acts lib hnew
      (·.front (append_nil _).symm hnew) (fun _ _ => rfl) (hclean hset)
  rw [if_neg hset]
  refine ⟨(⟨s.peerList, s.next + 1⟩, [.freed s.next, .returned .failed]), rfl, none, ?_, ?_,
    fun _ hsession => absurd hsession (not_mem_none _)⟩
  · unfold place
    simp
  · exact (Effect.freed_of (fun _ => rfl)).say (List.forall_mem_singleton.mpr rfl) (fun _ => rfl)

lemma Inv.opens (h : Inv s log) {isClient : Bool}
    (hnew : ∀ o ∈ s.peerList, peerKey o.endpoint ≠ peerKey endpoint)
    (hacts : Acts s.peerList [] (s.next + 1) ⟨endpoint, .new s.next isClient⟩ r) :
    Inv r.1 (log ++ .opened s.next isClient :: r.2) ∧ others r.1 endpoint = others s endpoint
      ∧ (r.2.any SslEvent.fails = true → getSslPeer r.1.peerList endpoint = none) := by
  have hapart : ∀ o ∈ s.peerList ++ [], peerKey o.endpoint ≠ peerKey endpoint := by
    rw [append_nil]
    exact hnew
  obtain ⟨hothers, hgone⟩ := hacts.right hapart rfl
  obtain ⟨left, hplace, heffect, hidle⟩ := hacts
  refine ⟨?_, ?_, hgone⟩
  · rw [hplace, List.append_cons]
    exact (h.born isClient hnew).call heffect hidle
  · rw [hothers, append_nil]
    exact (List.filter_eq_self.mpr (fun o ho => decide_eq_true (hnew o ho))).symm

lemma Inv.looks (h : Inv s log)
    (hplace : s = place before after s.next tep.endpoint (some tep.data))
    (hapart : ∀ o ∈ before ++ after, peerKey o.endpoint ≠ peerKey tep.endpoint)
    (hkey : peerKey tep.endpoint = peerKey endpoint) (hacts : Acts before after s.next tep r) :
    Inv r.1 (log ++ r.2) ∧ others r.1 endpoint = others s endpoint
      ∧ (r.2.any SslEvent.fails = true → getSslPeer r.1.peerList endpoint = none) := by
  obtain ⟨hothers, hgone⟩ := hacts.right hapart hkey
  have hbefore : Acts before after s.next tep (s, []) := by
    rw [hplace] at h ⊢
    refine ⟨some tep.data, rfl, Effect.refl tep.data, ?_⟩
    rintro _ ⟨⟩
    exact h.idle tep (mem_place.mpr (.inr ⟨tep.data, rfl, rfl⟩))
  obtain ⟨left, hplace', heffect, hidle⟩ := hacts
  refine ⟨?_, hothers.trans (hbefore.right hapart hkey).1.symm, hgone⟩
  rw [hplace']
  rw [hplace] at h
  exact h.call heffect hidle

lemma sslStep_inv (lib : CertLib Cert) (h : Inv s log) {call : SslCall Cert}
    (hclean : CallClean lib s call) :
    Inv (sslStep lib s call).1 (log ++ (sslStep lib s call).2) ∧ CallRight lib s call := by
  cases call with
  | encrypt endpoint message io =>
    unfold sslStep CallRight encryptSsl
    by_cases hmessage : message = []
    · simp only [if_pos hmessage]
      exact ⟨h.say (List.forall_mem_singleton.mpr rfl), trivial, fun hne => absurd hmessage hne⟩
    simp only [if_neg hmessage]
    have hclean : EncryptClean s endpoint message io := hclean hmessage
    cases hfind : getSslPeer s.peerList endpoint with
    | none =>
      obtain ⟨r, hr, hacts⟩ := initiate_acts (new_of_lookup hfind) hfind hclean
      obtain ⟨hinv, hothers, hgone⟩ := h.opens (new_of_lookup hfind) hacts
      simp only [hr]
      exact ⟨hinv, hothers, fun _ => hgone⟩
    | some tep =>
      obtain ⟨before, after, hplace, hapart, hkey⟩ := place_of_lookup h.keys hfind
      have hfront : ∀ o ∈ before, peerKey o.endpoint ≠ peerKey tep.endpoint :=
        fun o ho => hapart o (mem_append_left _ ho)
      unfold EncryptClean at hclean
      rw [hfind] at hclean
      have hacts : Acts before after s.next tep
          (sendTo (place before after s.next tep.endpoint (some tep.data)) tep message io) :=
        sendTo_acts hfront (h.idle tep (FirstMatch.mem_of_lookup _ hfind))
          (fun hover hwrite => (hclean hover hwrite).front (congrArg Table.peerList hplace) hfront)
      rw [← hplace] at hacts
      obtain ⟨hinv, hothers, hgone⟩ := h.looks hplace hapart hkey hacts
      exact ⟨hinv, hothers, fun _ => hgone⟩
  | decrypt endpoint io =>
    have hclean : DecryptClean lib s endpoint io := hclean
    cases hfind : getSslPeer s.peerList endpoint with
    | none =>
      obtain ⟨r, hr, hacts⟩ := open_acts (new_of_lookup hfind) hfind hclean
      obtain ⟨hinv, hothers, hgone⟩ := h.opens (new_of_lookup hfind) hacts
      unfold sslStep CallRight
      simp only [hr]
      exact ⟨hinv, hothers, hgone⟩
    | some tep =>
      obtain ⟨before, after, hplace, hapart, hkey⟩ := place_of_lookup h.keys hfind
      have hfront : ∀ o ∈ before, peerKey o.endpoint ≠ peerKey tep.endpoint :=
        fun o ho => hapart o (mem_append_left _ ho)
      unfold DecryptClean at hclean
      rw [hfind] at hclean
      have hacts : Acts before after s.next tep
          (decryptWith lib (place before after s.next tep.endpoint (some tep.data)) tep io) :=
        decryptWith_acts lib hfront (fun hown => hown.front (congrArg Table.peerList hplace) hfront)
          (h.idle tep (FirstMatch.mem_of_lookup _ hfind)) hclean
      rw [← hplace] at hacts
      obtain ⟨hinv, hothers, hgone⟩ := h.looks hplace hapart hkey hacts
      unfold sslStep CallRight decryptSsl
      simp only [hfind]
      exact ⟨hinv, hothers, hgone⟩
  | close endpoint =>
    unfold sslStep CallRight closeSslConnection
    cases hfind : getSslPeer s.peerList endpoint with
    | none =>
      simp only [hfind]
      exact ⟨h.say (List.forall_mem_singleton.mpr rfl), trivial, trivial⟩
    | some tep =>
      obtain ⟨before, after, hplace, hapart, hkey⟩ := place_of_lookup h.keys hfind
      have hfront : ∀ o ∈ before, peerKey o.endpoint ≠ peerKey tep.endpoint :=
        fun o ho => hapart o (mem_append_left _ ho)
      have hown := (hclean tep hfind).front (congrArg Table.peerList hplace) hfront
      have hremoved : removePeer s tep.endpoint
          = (place before after s.next tep.endpoint none, [.freed tep.data.address]) := by
        have hplaced : removePeer (place before after s.next tep.endpoint (some tep.data))
            tep.endpoint = _ := removePeer_place hown tep.data
        rw [← hplace] at hplaced
        exact hplaced
      have hothers : others s endpoint = before ++ after := by
        rw [hplace]
        exact others_place hapart hkey
      simp only [hfind, hremoved]
      refine ⟨?_, (others_place hapart hkey).trans hothers.symm, lookup_place hapart hkey⟩
      have hown : s.peerList.filter (fun o => !decide (peerKey o.endpoint ≠ peerKey endpoint))
          = [tep] := by
        rw [hplace]
        exact own_place hapart hkey
      have hquiet : ∀ e ∈ [(.returned .ok : SslEvent Cert)], e.quiet = true :=
        List.forall_mem_singleton.mpr rfl
      have hclosed := (h.closeAll (peerKey ·.endpoint ≠ peerKey endpoint)).say hquiet
      rw [hown, show s.peerList.filter (peerKey ·.endpoint ≠ peerKey endpoint)
        = before ++ after from hothers, append_assoc] at hclosed
      exact hclosed
  | closeAll transportType =>
    have hkept : s.peerList.filter (·.endpoint.adapter &&& transportType = 0)
        = Ssl.closeSslConnectionAll s.peerList transportType := rfl
    have hgone : s.peerList.filter (·.endpoint.adapter &&& transportType ≠ 0)
        = s.peerList.filter (fun tep => !(tep.endpoint.adapter &&& transportType == 0)) := by
      refine List.filter_congr (fun tep _ => ?_)
      rw [decide_not, beq_eq_decide]
    have hstep : sslStep lib s (.closeAll transportType)
        = closeSslConnectionAll s transportType := rfl
    refine ⟨?_, hkept.symm⟩
    rw [hstep, closeSslConnectionAll, hgone]
    exact h.closeAll (·.endpoint.adapter &&& transportType == 0)

end Step

/-- **The table of sessions**: over calls that do no harm, each call is right, and so is the table
after them. -/
theorem table_exact (lib : CertLib Cert) (calls : List (SslCall Cert))
    (hclean : Runs.Along (sslStep lib) (CallClean lib) Table.empty calls) :
    Runs.Along (sslStep lib) (CallRight lib) Table.empty calls
      ∧ TableRight (run (sslStep lib) Table.empty calls).1
        (run (sslStep lib) Table.empty calls).2 := by
  constructor
  · refine Runs.along_of (fun s => ∃ log, Inv s log) ?_ ⟨[], inv_empty⟩ hclean
    rintro s call ⟨log, hinv⟩ hcall
    obtain ⟨hinv', hright⟩ := sslStep_inv lib hinv hcall
    exact ⟨hright, _, hinv'⟩
  · exact (Runs.run_hist_of Inv (fun _ _ _ hinv hcall => (sslStep_inv lib hinv hcall).1)
      inv_empty hclean).right

def ipPeer : CAEndpoint := ⟨1, Coap.addrOne, 5684⟩
def tcpPeer : CAEndpoint := ⟨16, Coap.addrOne, 5684⟩

def plainLib : CertLib Unit := ⟨fun _ => 0, none, fun _ => some [1], fun _ => []⟩

def waiting : SslIo Unit := ⟨true, [], true, [], .nothing⟩

def ending (results : List ℤ) : SslIo Unit :=
  ⟨true, [⟨0, ⟨.handshakeOver, 0, none, .ecdhePskWithAes128CbcSha256⟩⟩], true, [results], .nothing⟩

def twoMessages : List (SslCall Unit) :=
  [.encrypt ipPeer [1] waiting, .decrypt ipPeer (ending [1]),
    .encrypt ipPeer [2, 3] (ending [1, -0x6880, 1]), .close ipPeer]

def failedStart : List (SslCall Unit) :=
  [.encrypt ipPeer [1] { waiting with steps := [⟨-0x7200, .setUp⟩] }]

def closedSecond : List (SslCall Unit) :=
  [.decrypt ipPeer waiting, .decrypt tcpPeer waiting, .close tcpPeer]

def lostMessage : List (SslCall Unit) := [.encrypt ipPeer [1] waiting, .decrypt ipPeer (ending [])]

theorem failedStart_releasesTwice :
    ¬ (Runs.Along (sslStep plainLib) (CallRight plainLib) Table.empty failedStart
      ∧ TableRight (run (sslStep plainLib) Table.empty failedStart).1
        (run (sslStep plainLib) Table.empty failedStart).2)
      ∧ ¬ (Runs.Along (sslStep plainLib) (CallRight plainLib) Table.empty closedSecond
        ∧ TableRight (run (sslStep plainLib) Table.empty closedSecond).1
          (run (sslStep plainLib) Table.empty closedSecond).2)
      ∧ ¬ (Runs.Along (sslStep plainLib) (CallRight plainLib) Table.empty lostMessage
        ∧ TableRight (run (sslStep plainLib) Table.empty lostMessage).1
          (run (sslStep plainLib) Table.empty lostMessage).2) := by
  refine ⟨?_, ?_, ?_⟩
  · rintro ⟨_, hright⟩
    exact absurd hright.released.length_eq (by decide)
  · rintro ⟨⟨_, _, hclose, _⟩, _⟩
    exact absurd (congrArg List.length hclose.1) (by decide)
  · rintro ⟨_, hright⟩
    exact absurd (hright.waiting _ List.mem_cons_self rfl) (by decide)

theorem twoMessages_sent :
    Runs.Along (sslStep plainLib) (CallRight plainLib) Table.empty twoMessages
      ∧ TableRight (run (sslStep plainLib) Table.empty twoMessages).1
        (run (sslStep plainLib) Table.empty twoMessages).2 := by
  refine table_exact plainLib twoMessages ⟨fun _ _ hover => ?_, ?_, fun _ _ hwrite => ?_,
    fun tep htep other hother => ?_, trivial⟩
  · exact absurd hover (by decide)
  · exact ⟨fun _ _ => ⟨rfl, trivial⟩, fun h => absurd h (by decide), fun h => absurd h (by decide)⟩
  · exact absurd rfl hwrite
  · obtain rfl := Option.some.inj htep
    rw [← Option.some.inj hother]

end Iochibity.Sec.SslTable
