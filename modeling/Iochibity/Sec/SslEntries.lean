/-
What a call leaves of the list of sessions, whatever mbedTLS does: at most one session for a peer,
each with a number of its own, and none changed but that of the call (`Touches`).
-/
import Iochibity.Sec.SslTableRuns

namespace Iochibity.Sec.SslTable

open Coap (CAEndpoint)
open Ssl (getSslPeer peerKey)
open List

variable {Cert : Type}

def entries (s : Table Cert) : List ((UInt32 × List UInt8 × Option UInt16) × ℕ) :=
  s.peerList.map fun tep => (peerKey tep.endpoint, tep.data.address)

structure WellFormed (s : Table Cert) : Prop where
  keys : (s.peerList.map (peerKey ·.endpoint)).Nodup
  addresses : (s.peerList.map (·.data.address)).Nodup
  fresh : ∀ tep ∈ s.peerList, tep.data.address < s.next

def Only (s : Table Cert) (endpoint : CAEndpoint) (a : ℕ) : Prop :=
  ∀ entry ∈ entries s, entry.1 = peerKey endpoint → entry.2 = a

/-- **A call for a session**: sessions may go, but none of the others changes, and nothing is said
of them. -/
structure Touches (s : Table Cert) (a : ℕ) (r : Table Cert × List (SslEvent Cert)) : Prop where
  entries : (entries r.1).Sublist (entries s)
  next : r.1.next = s.next
  others : ∀ o ∈ r.1.peerList, o.data.address ≠ a → o ∈ s.peerList
  refused : ∀ a', .refused a' ∈ r.2 → a' = a
  delivered : ∀ d data, .delivered d data ∈ r.2 → d.address = a

def SslEvent.about (a : ℕ) : SslEvent Cert → Prop
  | .refused a' => a' = a
  | .delivered d _ => d.address = a
  | _ => True

section Touches

variable {s s₁ : Table Cert} {a : ℕ} {endpoint : CAEndpoint} {tep : Peer Cert}
  {r : Table Cert × List (SslEvent Cert)} {events : List (SslEvent Cert)}

lemma Only.sublist (h : Only s endpoint a) (hsub : (entries s₁).Sublist (entries s)) :
    Only s₁ endpoint a :=
  fun entry hentry hkey => h entry (hsub.subset hentry) hkey

lemma touches_say (s : Table Cert) (hevents : ∀ e ∈ events, e.about a) :
    Touches s a (s, events) where
  entries := List.Sublist.refl _
  next := rfl
  others := fun _ ho _ => ho
  refused := fun _ ha => hevents _ ha
  delivered := fun _ _ hd => hevents _ hd

lemma Touches.trans (h₁ : Touches s a (s₁, events)) (h : Touches s₁ a r) :
    Touches s a (r.1, events ++ r.2) where
  entries := h.entries.trans h₁.entries
  next := h.next.trans h₁.next
  others := fun o ho hne => h₁.others o (h.others o ho hne) hne
  refused := fun a' ha => (mem_append.mp ha).elim (h₁.refused a') (h.refused a')
  delivered := fun d data hd =>
    (mem_append.mp hd).elim (h₁.delivered d data) (h.delivered d data)

lemma Touches.say (h : Touches s a r) (hevents : ∀ e ∈ events, e.about a) :
    Touches s a (r.1, r.2 ++ events) :=
  Touches.trans h (touches_say r.1 hevents)

lemma Touches.after (h : Touches s a r) (hevents : ∀ e ∈ events, e.about a) :
    Touches s a (r.1, events ++ r.2) :=
  Touches.trans (touches_say s hevents) h

lemma removePeer_touches (s : Table Cert) (endpoint : CAEndpoint) (a : ℕ) :
    Touches s a (removePeer s endpoint) := by
  have hevents : ∀ e ∈ (removePeer s endpoint).2, e.about a := by
    intro e he
    unfold removePeer at he
    simp only at he
    split at he
    · simp at he
    rw [mem_singleton.mp he]
    trivial
  exact ⟨eraseP_sublist.map _, rfl, fun o ho _ => mem_of_mem_eraseP ho,
    fun _ ha => hevents _ ha, fun _ _ hd => hevents _ hd⟩

lemma setPeer_touches (tep : Peer Cert) (hown : Only s tep.endpoint a) {session : Session Cert}
    (hsame : session.address = a) : Touches s a (setPeer s tep session, []) := by
  have hset : ∀ l : List (Peer Cert),
      (∀ o ∈ l, peerKey o.endpoint = peerKey tep.endpoint → o.data.address = a) →
      (FirstMatch.modify (fun t : Peer Cert => peerKey t.endpoint) (peerKey tep.endpoint)
          ({ · with data := session }) l).map
          (fun t => (peerKey t.endpoint, t.data.address))
        = l.map (fun t => (peerKey t.endpoint, t.data.address)) := by
    intro l hl
    induction l with
    | nil => rfl
    | cons o l ih =>
      obtain ⟨ho, hl⟩ := forall_mem_cons.mp hl
      by_cases hkey : peerKey o.endpoint = peerKey tep.endpoint
      · rw [FirstMatch.modify, if_pos hkey, map_cons, map_cons, hsame, ho hkey]
      · rw [FirstMatch.modify, if_neg hkey, map_cons, map_cons, ih hl]
  refine ⟨?_, rfl, fun o ho hne => ?_, fun _ ha => absurd ha not_mem_nil,
    fun _ _ hd => absurd hd not_mem_nil⟩
  · have hown : ∀ o ∈ s.peerList, peerKey o.endpoint = peerKey tep.endpoint →
        o.data.address = a := fun o ho hkey => hown _ (mem_map_of_mem ho) hkey
    have hsame : entries (setPeer s tep session) = entries s := hset s.peerList hown
    rw [hsame]
  · obtain ho | ⟨_, _, rfl⟩ := FirstMatch.mem_modify ho
    · exact ho
    · exact absurd hsame hne

lemma reportCache_about (tep : Peer Cert) (a : ℕ) : ∀ e ∈ reportCache tep, e.about a := by
  intro e he
  unfold reportCache at he
  split at he
  · obtain ⟨_, _, rfl⟩ := mem_map.mp he
    trivial
  · simp at he

lemma writeCache_about (address a : ℕ) (messages : List (List UInt8)) (writes : List (List ℤ)) :
    ∀ e ∈ (writeCache address messages writes : List (SslEvent Cert)), e.about a := by
  induction messages generalizing writes with
  | nil => exact fun e he => absurd he not_mem_nil
  | cons message rest ih =>
    intro e he
    obtain he | he := mem_append.mp he
    · split at he
      · rw [mem_singleton.mp he]
        trivial
      · simp at he
    · exact ih writes.tail e he

lemma returned_about (result : SslResult) (a : ℕ) :
    ∀ e ∈ [(.returned result : SslEvent Cert)], e.about a :=
  forall_mem_singleton.mpr trivial

lemma refused_about (a : ℕ) :
    ∀ e ∈ [(.refused a : SslEvent Cert), .returned .failed], e.about a :=
  forall_mem_cons.mpr ⟨rfl, returned_about .failed a⟩

lemma sslOperationFailed_touches (tep : Peer Cert)
    (hown : Only s tep.endpoint tep.data.address) (ret : ℤ) :
    Touches s tep.data.address (sslOperationFailed s tep ret) := by
  unfold sslOperationFailed
  split
  · have hset : Touches s tep.data.address
        (setPeer s tep { tep.data with cacheList := [] }, []) := setPeer_touches tep hown rfl
    exact (Touches.trans hset (removePeer_touches _ _ _)).after (reportCache_about tep _)
  · exact removePeer_touches _ _ _

lemma sendTo_touches (hown : Only s tep.endpoint tep.data.address) (message : List UInt8)
    (io : SslIo Cert) : Touches s tep.data.address (sendTo s tep message io) := by
  have hsent : ∀ e ∈ [(.accepted tep.data.address tep.data.isClient message : SslEvent Cert),
      .returned .ok], e.about tep.data.address :=
    forall_mem_cons.mpr ⟨trivial, returned_about .ok _⟩
  unfold sendTo
  split
  · split
    · exact touches_say s (forall_mem_cons.mpr
        ⟨trivial, forall_mem_cons.mpr ⟨trivial, returned_about .ok _⟩⟩)
    · exact (removePeer_touches _ _ _).say (returned_about .failed _)
  have hset : ∀ messages, Touches s tep.data.address
      (setPeer s tep { tep.data with cacheList := messages }, []) :=
    fun messages => setPeer_touches tep hown rfl
  exact (hset _).say hsent

lemma readData_touches (s : Table Cert) (tep : Peer Cert) (read : SslRead) :
    Touches s tep.data.address (readData s tep read) := by
  obtain hsaid | ⟨bytes, hgiven⟩ | ⟨-, result, hremoved⟩ := readData_cases s tep read
  · rw [hsaid]
    exact touches_say s (returned_about .ok _)
  · rw [hgiven]
    exact touches_say s (forall_mem_cons.mpr ⟨rfl, returned_about .ok _⟩)
  · rw [hremoved]
    exact (removePeer_touches _ _ _).say (returned_about result _)

lemma finishHandshake_touches (lib : CertLib Cert) (tep : Peer Cert)
    (hown : Only s tep.endpoint tep.data.address) (io : SslIo Cert) :
    Touches s tep.data.address (finishHandshake lib s tep io) := by
  unfold finishHandshake
  simp only
  have hsent : ∀ e ∈ (if tep.data.isClient then
      if io.notified then writeCache tep.data.address tep.data.cacheList io.writes
      else reportCache tep
    else [] : List (SslEvent Cert)), e.about tep.data.address := by
    split
    · split
      · exact writeCache_about _ _ _ _
      · exact reportCache_about _ _
    · exact fun e he => absurd he not_mem_nil
  have hsession : (if tep.data.isClient then { tep.data with cacheList := [] } else tep.data :
      Session Cert).address = tep.data.address := by
    split
    · rfl
    · rfl
  generalize (if tep.data.isClient then
      if io.notified then writeCache tep.data.address tep.data.cacheList io.writes
      else reportCache tep
    else [] : List (SslEvent Cert)) = sent at hsent ⊢
  generalize (if tep.data.isClient then { tep.data with cacheList := [] } else tep.data :
      Session Cert) = session at hsession ⊢
  have hset : ∀ (d : Session Cert) (events : List (SslEvent Cert)),
      d.address = tep.data.address → (∀ e ∈ events, e.about tep.data.address) →
      Touches s tep.data.address (setPeer s tep d, sent ++ events) := by
    intro d events hsame hevents
    have hsaid := ((setPeer_touches tep hown hsame).after hsent).say hevents
    rw [append_nil] at hsaid
    exact hsaid
  have hfailed : ∀ d : Session Cert, d.address = tep.data.address → Touches s tep.data.address
        ((sslOperationFailed (setPeer s tep d) ⟨tep.endpoint, d⟩ (-1)).1,
          sent ++ (sslOperationFailed (setPeer s tep d) ⟨tep.endpoint, d⟩ (-1)).2
            ++ [.refused d.address, .returned .failed]) := by
    intro d hsame
    have hset := setPeer_touches tep hown hsame
    have hown' : Only (setPeer s tep d) tep.endpoint d.address := by
      rw [hsame]
      exact hown.sublist hset.entries
    have hfailed := sslOperationFailed_touches ⟨tep.endpoint, d⟩ hown' (-1)
    have hrefused : ∀ e ∈ [(.refused d.address : SslEvent Cert), .returned .failed],
        e.about d.address := refused_about _
    simp only [hsame] at hfailed hrefused ⊢
    exact ((Touches.trans hset hfailed).after hsent).say hrefused
  have hok : ∀ d : Session Cert, d.address = tep.data.address →
      Touches s tep.data.address (setPeer s tep d, sent ++ [.returned .ok]) :=
    fun d hsame => hset d _ hsame (returned_about .ok _)
  by_cases hcertless : isCertless session.ssl.ciphersuite = true
  · rw [if_pos hcertless]
    exact hok _ hsession
  rw [if_neg hcertless]
  obtain ⟨htake, _⟩ | ⟨_, _, ⟨htake, _⟩ | ⟨session', hsame, htake | ⟨htake, _⟩⟩⟩ :=
    takeCert_spec lib session
  · rw [htake]
    exact hfailed _ hsession
  · rw [htake]
    refine hset _ _ hsession ?_
    rw [hsession]
    exact refused_about _
  · rw [htake]
    exact hok _ (hsame.address.trans hsession)
  · rw [htake]
    exact hfailed _ (hsame.address.trans hsession)

lemma decryptWith_touches (lib : CertLib Cert)
    (hown : Only s tep.endpoint tep.data.address) (io : SslIo Cert) :
    Touches s tep.data.address (decryptWith lib s tep io) := by
  unfold decryptWith
  by_cases hover : tep.data.ssl.state = .handshakeOver
  · rw [if_pos hover]
    exact readData_touches s tep io.read
  rw [if_neg hover]
  generalize decryptLoop lib tep.data.ssl io.steps = result
  obtain ⟨ssl, ended⟩ := result
  generalize hd : ({ tep.data with ssl := ssl } : Session Cert) = d
  have haddress : d.address = tep.data.address := by rw [← hd]
  have hset : Touches s tep.data.address (setPeer s ⟨tep.endpoint, d⟩ d, []) :=
    setPeer_touches ⟨tep.endpoint, d⟩ hown haddress
  have hown' : Only (setPeer s ⟨tep.endpoint, d⟩ d) tep.endpoint d.address := by
    rw [haddress]
    exact hown.sublist hset.entries
  have hthen : ∀ r, Touches (setPeer s ⟨tep.endpoint, d⟩ d) d.address r →
      Touches s tep.data.address r := by
    intro r hr
    rw [haddress] at hr
    exact hset.trans hr
  have hfailed := fun ret =>
    hthen _ (sslOperationFailed_touches ⟨tep.endpoint, d⟩ hown' ret)
  have hreads : Touches s tep.data.address
      (if ssl.state = .handshakeOver
        then readData (setPeer s ⟨tep.endpoint, d⟩ d) ⟨tep.endpoint, d⟩ io.read
        else (setPeer s ⟨tep.endpoint, d⟩ d, [.returned .ok])) := by
    split
    · exact hthen _ (readData_touches _ ⟨tep.endpoint, d⟩ io.read)
    · exact hset.say (returned_about .ok _)
  have hrefused : ∀ e ∈ [(.refused tep.data.address : SslEvent Cert), .returned .failed],
      e.about tep.data.address := refused_about _
  simp only at hd ⊢
  rw [hd]
  cases ended with
  | waits | socketError => exact hreads
  | failed ret => exact (hfailed ret).say (returned_about .failed _)
  | unverified flags => exact (hfailed (flagsInt flags)).say hrefused
  | badChain => exact hset.say hrefused
  | isOver => exact hthen _ (finishHandshake_touches lib ⟨tep.endpoint, d⟩ hown' io)

end Touches

/-! ## Calls -/

section WellFormed

variable {s : Table Cert} {a : ℕ} {endpoint : CAEndpoint} {tep : Peer Cert}
  {r : Table Cert × List (SslEvent Cert)}

lemma wellFormed_empty : WellFormed (Table.empty : Table Cert) where
  keys := nodup_nil
  addresses := nodup_nil
  fresh := fun _ htep => absurd htep not_mem_nil

lemma WellFormed.touch (h : WellFormed s) (htouches : Touches s a r) : WellFormed r.1 where
  keys := by
    have hkeys := htouches.entries.map Prod.fst
    unfold entries at hkeys
    rw [map_map, map_map] at hkeys
    exact h.keys.sublist hkeys
  addresses := by
    have haddresses := htouches.entries.map Prod.snd
    unfold entries at haddresses
    rw [map_map, map_map] at haddresses
    exact h.addresses.sublist haddresses
  fresh := by
    intro tep htep
    obtain ⟨o, ho, heq⟩ := mem_map.mp (htouches.entries.subset (mem_map_of_mem htep))
    have haddress : o.data.address = tep.data.address := congrArg Prod.snd heq
    rw [htouches.next, ← haddress]
    exact h.fresh o ho

lemma WellFormed.only (h : WellFormed s) (htep : tep ∈ s.peerList) :
    Only s tep.endpoint tep.data.address := by
  rintro entry hentry hkey
  obtain ⟨o, ho, rfl⟩ := mem_map.mp hentry
  rw [inj_on_of_nodup_map h.keys ho htep hkey]

lemma WellFormed.add (h : WellFormed s) (hfind : getSslPeer s.peerList endpoint = none)
    {d : Session Cert} (haddress : d.address = s.next) :
    WellFormed (addPeer s ⟨endpoint, d⟩) where
  keys := by
    unfold addPeer
    rw [map_append, map_singleton, ← concat_eq_append, nodup_concat]
    refine ⟨fun hmem => ?_, h.keys⟩
    obtain ⟨o, ho, hkey⟩ := mem_map.mp hmem
    exact new_of_lookup hfind o ho hkey
  addresses := by
    unfold addPeer
    rw [map_append, map_singleton, ← concat_eq_append, nodup_concat]
    refine ⟨fun hmem => ?_, h.addresses⟩
    obtain ⟨o, ho, heq⟩ := mem_map.mp hmem
    have hfresh := h.fresh o ho
    simp only at heq
    omega
  fresh := by
    intro tep htep
    obtain htep | htep := mem_append.mp htep
    · exact Nat.lt_succ_of_lt (h.fresh tep htep)
    rw [mem_singleton.mp htep]
    exact Nat.lt_succ_of_le (Nat.le_of_eq haddress)

lemma WellFormed.skip (h : WellFormed s) : WellFormed { s with next := s.next + 1 } where
  keys := h.keys
  addresses := h.addresses
  fresh := fun tep htep => Nat.lt_succ_of_lt (h.fresh tep htep)

lemma mem_addPeer (s : Table Cert) (tep : Peer Cert) : tep ∈ (addPeer s tep).peerList :=
  mem_append_right _ (mem_singleton_self tep)

lemma initiate_wellFormed (h : WellFormed s) (hfind : getSslPeer s.peerList endpoint = none)
    (message : List UInt8) (io : SslIo Cert) :
    WellFormed (initiate s endpoint message io).1 := by
  unfold initiate
  by_cases hset : io.cipherSetUp = true
  · rw [if_pos hset]
    simp only
    generalize initiateLoop (Session.new s.next true : Session Cert).ssl io.steps = result
    obtain ⟨ssl, ended⟩ := result
    generalize hd : ({ (Session.new s.next true : Session Cert) with ssl := ssl } :
      Session Cert) = d
    have haddress : d.address = s.next := by
      rw [← hd]
      rfl
    have hadd := h.add (d := d) hfind haddress
    have hown := hadd.only (mem_addPeer s ⟨endpoint, d⟩)
    have hsend := hadd.touch (sendTo_touches hown message io)
    have hremoved := hadd.touch (removePeer_touches _ endpoint d.address)
    have hfailed := fun ret => hadd.touch (sslOperationFailed_touches ⟨endpoint, d⟩ hown ret)
    cases ended with
    | waits => exact hsend
    | socketError => exact hremoved
    | failed ret => exact hfailed ret
    | unverified | badChain | isOver => exact hsend
  rw [if_neg hset]
  exact h.skip

lemma sslStep_wellFormed (lib : CertLib Cert) (h : WellFormed s) (call : SslCall Cert) :
    WellFormed (sslStep lib s call).1 := by
  cases call with
  | encrypt endpoint message io =>
    unfold sslStep encryptSsl
    simp only
    split
    · exact h
    cases hfind : getSslPeer s.peerList endpoint with
    | none => exact initiate_wellFormed h hfind message io
    | some tep =>
      have hown := h.only (FirstMatch.mem_of_lookup _ hfind)
      exact h.touch (sendTo_touches hown message io)
  | decrypt endpoint io =>
    unfold sslStep decryptSsl
    simp only
    cases hfind : getSslPeer s.peerList endpoint with
    | none =>
      simp only
      split
      · have hadd := h.add (d := .new s.next false) hfind rfl
        have hown := hadd.only (mem_addPeer s ⟨endpoint, .new s.next false⟩)
        have hafter := hadd.touch (decryptWith_touches lib hown io)
        exact hafter
      · exact h.skip
    | some tep =>
      have hown := h.only (FirstMatch.mem_of_lookup _ hfind)
      exact h.touch (decryptWith_touches lib hown io)
  | close endpoint =>
    unfold sslStep closeSslConnection
    simp only
    cases getSslPeer s.peerList endpoint with
    | none => exact h
    | some tep =>
      have hremoved := h.touch (removePeer_touches s tep.endpoint tep.data.address)
      exact hremoved
  | closeAll transportType =>
    have hsub := filter_sublist
      (p := fun tep : Peer Cert => tep.endpoint.adapter &&& transportType == 0)
      (l := s.peerList)
    exact ⟨h.keys.sublist (hsub.map _), h.addresses.sublist (hsub.map _),
      fun tep htep => h.fresh tep (hsub.subset htep)⟩

end WellFormed

end Iochibity.Sec.SslTable
