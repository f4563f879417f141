/-
The roles resource over whole runs.
-/
import Iochibity.Lib.Runs
import Iochibity.Sec.Roles

namespace Iochibity.Sec

open List
open FirstMatch (key_of_lookup mem_of_lookup slot slot_cons slot_modify_ne)

section

inductive RolesOp
  | post (peer : PeerPublicKey) (chains : Option (List PostedChain))
  | delete (query : Option (List QuerySegment)) (peer : PeerPublicKey)
  | roles (endpoint : Option CASecureEndpoint) (callocKey : Bool) (call : RolesCall)

def PeerPublicKey.key : PeerPublicKey → Option (List UInt8)
  | .ok publicKey => some publicKey
  | _ => none

def RolesOp.peerKey : RolesOp → Option (List UInt8)
  | .post peer _ => peer.key
  | .delete _ peer => peer.key
  | .roles endpoint callocKey _ => (getPeerPublicKey endpoint callocKey).key

def RolesState.entriesOf (k : List UInt8) (state : RolesState) : List RolesEntry :=
  slot RolesEntry.publicKey k state.gRoles

def RolesState.chains (state : RolesState) : List RoleCertChain :=
  state.gRoles.flatMap RolesEntry.chains

inductive RolesEvent
  | posted (publicKey : List UInt8) (posted : PostedChain)
  | added (count : Nat)

def postedEvents (peer : PeerPublicKey) (chains : Option (List PostedChain)) : List RolesEvent :=
  match peer, chains with
  | .ok publicKey, some chains => chains.map (RolesEvent.posted publicKey)
  | _, _ => []

def RolesState.step (state : RolesState) (op : RolesOp) : RolesState × List RolesEvent :=
  match op with
  | .post peer chains =>
    let after := (handleRolesPost peer chains state).1
    (after, postedEvents peer chains ++ [.added (after.chains.length - state.chains.length)])
  | .delete query peer => ((handleRolesDelete query peer state).1, [])
  | .roles endpoint callocKey call => ((getEndpointRoles endpoint callocKey call state).1, [])

def additions (log : List RolesEvent) : Nat :=
  (log.map (fun event => match event with | .added count => count | .posted _ _ => 0)).sum

/-! ## One entry -/

/-- What holds of an entry in a state with counter value `next`: its chains are different, were
posted with this key and are valid for it. -/
structure EntryInv (log : List RolesEvent) (entry : RolesEntry) : Prop where
  different : entry.chains.Pairwise (fun a b => isSameSecKey a.certificate b.certificate = false)
  posted : ∀ chain ∈ entry.chains, ∃ posted, .posted entry.publicKey posted ∈ log
    ∧ posted.validKey = some entry.publicKey ∧ posted.chain.certificate = chain.certificate

structure Shrinks (entry' entry : RolesEntry) : Prop where
  publicKey : entry'.publicKey = entry.publicKey
  chains : entry'.chains.Sublist entry.chains

variable {log : List RolesEvent} {entry : RolesEntry}

lemma EntryInv.of_shrinks {entry' : RolesEntry} (h : EntryInv log entry)
    (hshrinks : Shrinks entry' entry) : EntryInv log entry' where
  different := h.different.sublist hshrinks.chains
  posted := by
    intro chain hchain
    rw [hshrinks.publicKey]
    exact h.posted chain (hshrinks.chains.subset hchain)

lemma EntryInv.mono (h : EntryInv log entry)
    (events : List RolesEvent) : EntryInv (log ++ events) entry where
  different := h.different
  posted := by
    intro chain hchain
    obtain ⟨posted, hmem, hrest⟩ := h.posted chain hchain
    exact ⟨posted, mem_append_left _ hmem, hrest⟩

lemma verifyChains_sublist (verify : RoleCertChain → ChainResult) (cacheValidUntil : Tm)
    (roles : List OicSecRole) (chains : List RoleCertChain) :
    (verifyChains verify cacheValidUntil roles chains).1.Sublist chains := by
  induction chains generalizing cacheValidUntil roles with
  | nil => exact List.Sublist.slnil
  | cons chain rest ih =>
    rw [verifyChains]
    split
    · exact (ih _ _).cons chain
    · exact (ih _ _).cons_cons chain
    · simp

lemma entryRoles_shrinks (call : RolesCall) (entry : RolesEntry) :
    Shrinks (entryRoles call entry).1 entry := by
  have hsub := verifyChains_sublist call.verify Tm.zero [] entry.chains
  rw [entryRoles]
  split
  · exact ⟨rfl, List.Sublist.refl _⟩
  split
  · exact ⟨rfl, List.Sublist.refl _⟩
  split
  · rename_i heq
    rw [heq] at hsub
    exact ⟨rfl, hsub⟩
  rename_i heq
  rw [heq] at hsub
  exact ⟨rfl, hsub⟩

lemma deleteChains_sublist (credId : UInt32) (chains : List RoleCertChain) :
    (deleteChains credId chains).Sublist chains := by
  rw [deleteChains]
  split
  · simp
  · exact eraseP_sublist

lemma deleteFromEntry_shrinks (credId : UInt32) (entry : RolesEntry) :
    Shrinks (deleteFromEntry credId entry) entry :=
  ⟨rfl, deleteChains_sublist credId entry.chains⟩

lemma addToEntry_cases (posted : PostedChain) (entry : RolesEntry) (gIdCounter : UInt32) :
    (∃ success, addToEntry posted entry gIdCounter = (entry, gIdCounter, success))
    ∨ (addToEntry posted entry gIdCounter
        = ({ entry with chains := entry.chains ++ [{ posted.chain with credId := gIdCounter }] },
          gIdCounter + 1, true)
      ∧ ∀ chain ∈ entry.chains,
        isSameSecKey chain.certificate posted.chain.certificate = false) := by
  rw [addToEntry]
  split
  · exact .inl ⟨true, rfl⟩
  rename_i hcontains
  rw [roleCertChainContains, any_eq_true, not_exists] at hcontains
  split
  · exact .inl ⟨false, rfl⟩
  rename_i copy hcopy
  right
  rw [duplicateRoleCertChain] at hcopy
  split at hcopy
  · rw [← Option.some.inj hcopy]
    refine ⟨rfl, fun chain hchain => ?_⟩
    exact Bool.eq_false_iff.mpr (hcontains chain ⟨hchain, ·⟩)
  · cases hcopy

variable {posted : PostedChain}

lemma EntryInv.add (h : EntryInv log entry) (hposted : .posted entry.publicKey posted ∈ log)
    (hvalid : posted.validKey = some entry.publicKey) (hnew : ∀ chain ∈ entry.chains,
      isSameSecKey chain.certificate posted.chain.certificate = false) (credId : UInt32) :
    EntryInv log
      { entry with chains := entry.chains ++ [{ posted.chain with credId := credId }] } where
  different := by
    rw [pairwise_append]
    refine ⟨h.different, pairwise_singleton _ _, ?_⟩
    intro chain hchain last hlast
    rw [mem_singleton.mp hlast]
    exact hnew chain hchain
  posted := by
    intro chain hchain
    rcases mem_append.mp hchain with hchain | hchain
    · exact h.posted chain hchain
    rw [mem_singleton.mp hchain]
    exact ⟨posted, hposted, hvalid, rfl⟩

/-- The numbers given so far, when `n` chains have been added. -/
structure IdsInv (n : Nat) (chains : List RoleCertChain) (gIdCounter : UInt32) : Prop where
  counter : gIdCounter = UInt32.ofNat (n + 1)
  nodup : (chains.map RoleCertChain.credId).Nodup
  range : ∀ chain ∈ chains, 0 < chain.credId.toNat ∧ chain.credId.toNat ≤ n

variable {n : Nat} {chains : List RoleCertChain} {gIdCounter : UInt32}

lemma IdsInv.of_sublist {chains' : List RoleCertChain} (h : IdsInv n chains gIdCounter)
    (hsub : chains'.Sublist chains) :
    IdsInv n chains' gIdCounter where
  counter := h.counter
  nodup := h.nodup.sublist (hsub.map _)
  range chain hchain := h.range chain (hsub.subset hchain)

lemma IdsInv.of_perm {chains' : List RoleCertChain} (h : IdsInv n chains gIdCounter)
    (hperm : chains'.Perm chains) :
    IdsInv n chains' gIdCounter where
  counter := h.counter
  nodup := (hperm.map _).nodup_iff.mpr h.nodup
  range chain hchain := h.range chain (hperm.mem_iff.mp hchain)

lemma IdsInv.add (h : IdsInv n chains gIdCounter) (hn : n + 1 < 2 ^ 32) (chain : RoleCertChain) :
    IdsInv (n + 1) ({ chain with credId := gIdCounter } :: chains) (gIdCounter + 1) := by
  have hvalue : gIdCounter.toNat = n + 1 := by
    rw [h.counter, UInt32.toNat_ofNat', Nat.mod_eq_of_lt hn]
  constructor
  · rw [h.counter, UInt32.ofNat_add (n + 1) 1]
    rfl
  · rw [map_cons, nodup_cons]
    refine ⟨?_, h.nodup⟩
    rw [mem_map]
    rintro ⟨old, hold, heq⟩
    have hle := (h.range old hold).2
    rw [heq, hvalue] at hle
    omega
  · intro new hnew
    rcases mem_cons.mp hnew with rfl | hold
    · simp only [hvalue]
      omega
    have hrange := h.range new hold
    omega

/-! ## The state -/

/-- What holds of the state when `n` chains have been added. -/
structure StoreInv (log : List RolesEvent) (n : Nat) (state : RolesState) : Prop where
  single : ∀ k, (state.entriesOf k).length ≤ 1
  entries : ∀ entry ∈ state.gRoles, EntryInv log entry
  ids : n < 2 ^ 32 → IdsInv n state.chains state.gIdCounter

def RolesState.replace (state : RolesState) (k : List UInt8) (entry : RolesEntry) : RolesState :=
  { state with gRoles := FirstMatch.modify RolesEntry.publicKey k (fun _ => entry) state.gRoles }

section Replace

variable {state : RolesState} {k : List UInt8} {entry entry' : RolesEntry}

lemma entriesOf_replace_ne (hkey : entry'.publicKey = k) {k' : List UInt8} (hne : k' ≠ k) :
    (state.replace k entry').entriesOf k' = state.entriesOf k' :=
  slot_modify_ne (fun _ _ => hkey) hne state.gRoles

lemma single_replace (hkey : entry'.publicKey = k)
    (hsingle : ∀ k', (state.entriesOf k').length ≤ 1) (k' : List UInt8) :
    ((state.replace k entry').entriesOf k').length ≤ 1 := by
  by_cases hk : k' = k
  · subst hk
    rw [RolesState.entriesOf, RolesState.replace,
      FirstMatch.slot_modify_self (fun _ _ => hkey) state.gRoles, length_modifyHead]
    exact hsingle k'
  rw [entriesOf_replace_ne hkey hk]
  exact hsingle k'

lemma mem_gRoles_replace {e : RolesEntry} (he : e ∈ (state.replace k entry').gRoles) :
    e ∈ state.gRoles ∨ e = entry' := by
  rcases FirstMatch.mem_modify he with hold | ⟨_, -, rfl⟩
  · exact .inl hold
  · exact .inr rfl

lemma chains_replace
    (hlookup : FirstMatch.lookup RolesEntry.publicKey k state.gRoles = some entry)
    (entry' : RolesEntry) : ∃ before after,
    state.chains = before ++ entry.chains ++ after
      ∧ (state.replace k entry').chains = before ++ entry'.chains ++ after := by
  obtain ⟨l₁, l₂, hsplit, hmodify⟩ := FirstMatch.modify_of_lookup hlookup (fun _ => entry')
  refine ⟨l₁.flatMap RolesEntry.chains, l₂.flatMap RolesEntry.chains, ?_, ?_⟩
  · rw [RolesState.chains, hsplit, flatMap_append, flatMap_cons, append_assoc]
  · rw [RolesState.chains, RolesState.replace, hmodify, flatMap_append, flatMap_cons, append_assoc]

lemma StoreInv.shrink {log : List RolesEvent} {n : Nat} (h : StoreInv log n state)
    (hlookup : FirstMatch.lookup RolesEntry.publicKey k state.gRoles = some entry)
    (hshrinks : Shrinks entry' entry) : StoreInv log n (state.replace k entry') := by
  have hkey : entry'.publicKey = k :=
    hshrinks.publicKey.trans (key_of_lookup RolesEntry.publicKey hlookup)
  have hmem := mem_of_lookup RolesEntry.publicKey hlookup
  obtain ⟨before, after, hbefore, hafter⟩ := chains_replace hlookup entry'
  constructor
  · exact single_replace hkey h.single
  · intro e he
    rcases mem_gRoles_replace he with hold | rfl
    · exact h.entries e hold
    · exact (h.entries entry hmem).of_shrinks hshrinks
  · intro hn
    apply (h.ids hn).of_sublist
    rw [hbefore, hafter]
    exact (hshrinks.chains.append_left before).append_right after

end Replace

/-! ## Adding chains -/

def RolesState.withCounter (state : RolesState) (gIdCounter : UInt32) : RolesState :=
  { state with gIdCounter := gIdCounter }

variable {state : RolesState} {k : List UInt8}

lemma StoreInv.added (h : StoreInv log n state) {target base : RolesEntry}
    (hlookup : FirstMatch.lookup RolesEntry.publicKey k state.gRoles = some target)
    (hkey : base.publicKey = target.publicKey) (hchains : base.chains = target.chains)
    (hposted : .posted k posted ∈ log) (hvalid : posted.validKey = some k) :
    ∃ m, let result := addToEntry posted base state.gIdCounter
      let after := (state.replace k result.1).withCounter result.2.1
      StoreInv log (n + m) after ∧ after.chains.length = state.chains.length + m := by
  have hk := key_of_lookup RolesEntry.publicKey hlookup
  have hmem := mem_of_lookup RolesEntry.publicKey hlookup
  have hshrinks : Shrinks base target := ⟨hkey, hchains ▸ List.Sublist.refl _⟩
  rcases addToEntry_cases posted base state.gIdCounter with ⟨success, hadd⟩ | ⟨hadd, hnew⟩
  · refine ⟨0, ?_⟩
    simp only [hadd]
    obtain ⟨before, after, hbefore, hafter⟩ := chains_replace hlookup base
    refine ⟨h.shrink hlookup hshrinks, ?_⟩
    rw [hbefore, ← hchains, ← hafter]
    rfl
  refine ⟨1, ?_⟩
  simp only [hadd]
  generalize hentry : ({ base with
    chains := base.chains ++ [{ posted.chain with credId := state.gIdCounter }] } : RolesEntry)
      = entry'
  have hkey' : entry'.publicKey = k := by
    rw [← hentry]
    exact hkey.trans hk
  have hlist : entry'.chains
      = target.chains ++ [{ posted.chain with credId := state.gIdCounter }] := by
    rw [← hentry, ← hchains]
  obtain ⟨before, after, hbefore, hafter⟩ := chains_replace hlookup entry'
  have hperm : (state.replace k entry').chains.Perm
      ({ posted.chain with credId := state.gIdCounter } :: state.chains) := by
    rw [hafter, hbefore, hlist]
    simp only [append_assoc, singleton_append]
    rw [← append_assoc, ← append_assoc before]
    exact perm_middle
  refine ⟨⟨single_replace hkey' h.single, ?_, ?_⟩, hperm.length_eq⟩
  · intro e he
    rcases mem_gRoles_replace he with hold | rfl
    · exact h.entries e hold
    rw [← hentry]
    apply ((h.entries target hmem).of_shrinks hshrinks).add _ _ hnew
    · rw [hkey, hk]
      exact hposted
    · rw [hkey, hk]
      exact hvalid
  · intro hn
    exact ((h.ids (Nat.lt_of_succ_lt hn)).add hn posted.chain).of_perm hperm

lemma StoreInv.newEntry (h : StoreInv log n state)
    (hnone : FirstMatch.lookup RolesEntry.publicKey k state.gRoles = none) :
    StoreInv log n { state with gRoles := ⟨k, [], Tm.zero, []⟩ :: state.gRoles } where
  single := by
    intro k'
    rw [RolesState.entriesOf, slot_cons]
    split
    · rename_i hk
      simp only at hk
      subst hk
      rw [(FirstMatch.lookup_eq_none RolesEntry.publicKey).mp hnone]
      exact Nat.le_refl 1
    · exact h.single k'
  entries := by
    intro e he
    rcases mem_cons.mp he with rfl | hold
    · exact ⟨List.Pairwise.nil, fun chain hchain => absurd hchain not_mem_nil⟩
    · exact h.entries e hold
  ids := h.ids

variable {pubKey : List UInt8}

lemma addRoleCertificate_inv (h : StoreInv log n state) (hposted : .posted pubKey posted ∈ log)
    (hvalid : posted.validKey = some pubKey) :
    ∃ m, StoreInv log (n + m) (addRoleCertificate posted pubKey state).1
      ∧ (addRoleCertificate posted pubKey state).1.chains.length = state.chains.length + m := by
  rw [addRoleCertificate]
  split
  · exact ⟨0, h, rfl⟩
  split
  · rename_i targetEntry hlookup
    have hbase : (invalidateRoleCache targetEntry).publicKey = targetEntry.publicKey := rfl
    exact h.added hlookup hbase rfl hposted hvalid
  rename_i hnone
  split
  · -- an entry without chains is prepended first, and the chain then added to it
    have hlookup : FirstMatch.lookup RolesEntry.publicKey pubKey
        (⟨pubKey, [], Tm.zero, []⟩ :: state.gRoles) = some ⟨pubKey, [], Tm.zero, []⟩ := by
      simp [FirstMatch.lookup]
    obtain ⟨m, hinv, hlength⟩ := (h.newEntry hnone).added hlookup rfl rfl hposted hvalid
    have hafter : ∀ entry : RolesEntry,
        FirstMatch.modify RolesEntry.publicKey pubKey (fun _ => entry)
          (⟨pubKey, [], Tm.zero, []⟩ :: state.gRoles) = entry :: state.gRoles :=
      fun entry => if_pos rfl
    simp only [RolesState.replace, hafter] at hinv hlength
    exact ⟨m, hinv, hlength⟩
  · exact ⟨0, h, rfl⟩

/-! ## The operations -/

lemma storeRoles_inv {chains : List PostedChain}
    (hposted : ∀ posted ∈ chains, .posted pubKey posted ∈ log ∧ posted.validKey = some pubKey)
    (h : StoreInv log n state) :
    ∃ m, StoreInv log (n + m) (storeRoles pubKey chains state)
      ∧ (storeRoles pubKey chains state).chains.length = state.chains.length + m := by
  induction chains generalizing n state with
  | nil => exact ⟨0, h, rfl⟩
  | cons posted rest ih =>
    rw [forall_mem_cons] at hposted
    obtain ⟨m, hinv, hlength⟩ := addRoleCertificate_inv h hposted.1.1 hposted.1.2
    rw [storeRoles]
    split <;> rename_i heq <;> rw [heq] at hinv hlength
    · obtain ⟨m', hinv', hlength'⟩ := ih hposted.2 hinv
      refine ⟨m + m', ?_, ?_⟩
      · rw [← Nat.add_assoc]
        exact hinv'
      · rw [hlength', hlength, Nat.add_assoc]
    · exact ⟨m, hinv, hlength⟩

lemma validateRoles_spec {peerPubKey pubKey' : List UInt8} {chains : List PostedChain}
    (h : validateRoles peerPubKey chains pubKey = some pubKey') :
    (∀ posted ∈ chains, posted.validKey = some peerPubKey)
      ∧ (chains = [] ∧ pubKey' = pubKey ∨ pubKey' = peerPubKey) := by
  induction chains generalizing pubKey with
  | nil =>
    rw [validateRoles, Option.some.injEq] at h
    exact ⟨fun _ hmem => absurd hmem not_mem_nil, .inl ⟨rfl, h.symm⟩⟩
  | cons posted rest ih =>
    rw [validateRoles] at h
    split at h
    · cases h
    split at h
    · cases h
    rename_i key hkey
    split at h
    · cases h
    rename_i hpeer
    rw [ne_eq, not_not] at hpeer
    subst hpeer
    obtain ⟨hvalid, hlast⟩ := ih h
    refine ⟨forall_mem_cons.mpr ⟨hkey, hvalid⟩, .inr ?_⟩
    rcases hlast with ⟨-, hlast⟩ | hlast
    · exact hlast
    · exact hlast

lemma StoreInv.mono (h : StoreInv log n state) (events : List RolesEvent) :
    StoreInv (log ++ events) n state where
  single := h.single
  entries entry hentry := (h.entries entry hentry).mono events
  ids := h.ids

lemma additions_append (log log' : List RolesEvent) :
    additions (log ++ log') = additions log + additions log' := by
  rw [additions, map_append, sum_append, additions, additions]

lemma additions_postedEvents (peer : PeerPublicKey) (chains : Option (List PostedChain)) :
    additions (postedEvents peer chains) = 0 := by
  unfold postedEvents
  split
  · simp [additions, Function.comp_def]
  · rfl

lemma handleRolesPost_inv (h : StoreInv log n state) (peer : PeerPublicKey)
    (chains : Option (List PostedChain)) :
    ∃ m, StoreInv (log ++ postedEvents peer chains) (n + m) (handleRolesPost peer chains state).1
      ∧ (handleRolesPost peer chains state).1.chains.length = state.chains.length + m := by
  unfold handleRolesPost
  split
  · rename_i peerPubKey chains
    split
    · rename_i pubKey hvalidate
      obtain ⟨hvalid, hlast⟩ := validateRoles_spec hvalidate
      rcases hlast with ⟨rfl, -⟩ | rfl
      · exact ⟨0, h.mono _, rfl⟩
      have hposted : ∀ posted ∈ chains,
          RolesEvent.posted pubKey posted ∈ log ++ postedEvents (.ok pubKey) (some chains)
            ∧ posted.validKey = some pubKey := by
        intro posted hmem
        exact ⟨mem_append_right _ (mem_map_of_mem hmem), hvalid posted hmem⟩
      exact storeRoles_inv hposted (h.mono _)
    · exact ⟨0, h.mono _, rfl⟩
  · exact ⟨0, h.mono _, rfl⟩

lemma handleRolesDelete_inv (h : StoreInv log n state) (query : Option (List QuerySegment))
    (peer : PeerPublicKey) :
    StoreInv log n (handleRolesDelete query peer state).1 := by
  rw [handleRolesDelete]
  split
  · exact h
  rename_i credId hquery
  split
  · split
    · exact h
    rename_i entry hlookup
    rw [FirstMatch.modify_congr_of_lookup hlookup]
    exact h.shrink hlookup (deleteFromEntry_shrinks credId entry)
  · exact h

lemma getEndpointRoles_inv (h : StoreInv log n state) (endpoint : Option CASecureEndpoint)
    (callocKey : Bool) (call : RolesCall) :
    StoreInv log n (getEndpointRoles endpoint callocKey call state).1 := by
  rw [getEndpointRoles]
  split
  · split
    · exact h
    rename_i entry hlookup
    exact h.shrink hlookup (entryRoles_shrinks call entry)
  · exact h
  · exact h

/-! ## Other keys -/

lemma addToEntry_publicKey (posted : PostedChain) (entry : RolesEntry) (gIdCounter : UInt32) :
    (addToEntry posted entry gIdCounter).1.publicKey = entry.publicKey := by
  rcases addToEntry_cases posted entry gIdCounter with ⟨success, hadd⟩ | ⟨hadd, -⟩
  · rw [hadd]
  · rw [hadd]

lemma addRoleCertificate_others (posted : PostedChain) (hne : k ≠ pubKey) (state : RolesState) :
    (addRoleCertificate posted pubKey state).1.entriesOf k = state.entriesOf k := by
  rw [addRoleCertificate]
  split
  · rfl
  split
  · rename_i targetEntry hlookup
    have hkey := key_of_lookup RolesEntry.publicKey hlookup
    have hbase : (invalidateRoleCache targetEntry).publicKey = pubKey := hkey
    exact entriesOf_replace_ne ((addToEntry_publicKey _ _ _).trans hbase) hne
  split
  · rw [RolesState.entriesOf, slot_cons, addToEntry_publicKey, if_neg (hne ·.symm)]
    rfl
  · rfl

lemma storeRoles_others (hne : k ≠ pubKey) (chains : List PostedChain)
    (state : RolesState) : (storeRoles pubKey chains state).entriesOf k = state.entriesOf k := by
  induction chains generalizing state with
  | nil => rfl
  | cons posted rest ih =>
    have hfirst := addRoleCertificate_others posted hne state
    rw [storeRoles]
    split <;> rename_i heq <;> rw [heq] at hfirst
    · rw [ih]
      exact hfirst
    · exact hfirst

lemma step_others {op : RolesOp} (hne : op.peerKey ≠ some k)
    (state : RolesState) : (state.step op).1.entriesOf k = state.entriesOf k := by
  cases op with
  | post peer chains =>
    simp only [RolesState.step, handleRolesPost]
    split
    · split
      · rename_i pubKey hvalidate
        rcases (validateRoles_spec hvalidate).2 with ⟨rfl, -⟩ | rfl
        · rfl
        · exact storeRoles_others (fun hk => hne (congrArg some hk.symm)) _ state
      · rfl
    · rfl
  | delete query peer =>
    simp only [RolesState.step, handleRolesDelete]
    split
    · rfl
    split
    · split
      · rfl
      apply slot_modify_ne
      · exact fun entry hkey => hkey
      · exact fun hk => hne (congrArg some hk.symm)
    · rfl
  | roles endpoint callocKey call =>
    simp only [RolesState.step, getEndpointRoles]
    split
    · rename_i publicKey hpeer
      split
      · rfl
      rename_i entry hlookup
      have hkey := key_of_lookup RolesEntry.publicKey hlookup
      apply entriesOf_replace_ne ((entryRoles_shrinks call entry).publicKey.trans hkey)
      rintro rfl
      exact hne (congrArg PeerPublicKey.key hpeer)
    · rfl
    · rfl

/-! ## Runs -/

lemma step_inv (h : StoreInv log (additions log) state) (op : RolesOp) :
    StoreInv (log ++ (state.step op).2) (additions (log ++ (state.step op).2))
      (state.step op).1 := by
  cases op with
  | post peer chains =>
    obtain ⟨m, hinv, hlength⟩ := handleRolesPost_inv h peer chains
    have hcount : additions (log ++ (state.step (.post peer chains)).2) = additions log + m := by
      rw [additions_append, RolesState.step, additions_append, additions_postedEvents, hlength]
      simp [additions]
    rw [hcount]
    have hmono := hinv.mono
      [.added ((handleRolesPost peer chains state).1.chains.length - state.chains.length)]
    rw [append_assoc] at hmono
    exact hmono
  | delete query peer =>
    rw [RolesState.step, append_nil]
    exact handleRolesDelete_inv h query peer
  | roles endpoint callocKey call =>
    rw [RolesState.step, append_nil]
    exact getEndpointRoles_inv h endpoint callocKey call

lemma storeInv_init : StoreInv [] 0 RolesState.init where
  single _ := Nat.zero_le 1
  entries _ hentry := absurd hentry not_mem_nil
  ids _ := ⟨rfl, nodup_nil, fun _ hchain => absurd hchain not_mem_nil⟩

lemma run_storeInv (ops : List RolesOp) :
    let run := Runs.run RolesState.step RolesState.init ops
    StoreInv run.2 (additions run.2) run.1 := by
  have hops : ∀ op ∈ ops, (fun _ : RolesOp => True) op := fun _ _ => trivial
  have h := Runs.run_hist (fun state log => StoreInv log (additions log) state) (fun _ => True)
    (fun state op log _ hinv => step_inv hinv op) storeInv_init hops
  rwa [nil_append] at h

/-- **Isolation of peers.** After any run from the empty store there is at most one
entry for a key; as long as fewer than 2^32 chains have been added their numbers are
different and not 0; a chain that is stored under a key was posted by a peer with this
key and is valid for it; an entry has no certificate twice; and another operation
leaves the entries of all keys but that of its peer as they are. -/
theorem role_store_isolation (ops : List RolesOp) :
    let run := Runs.run RolesState.step RolesState.init ops
    (∀ k, (run.1.entriesOf k).length ≤ 1)
      ∧ (additions run.2 < 2 ^ 32 → (run.1.chains.map RoleCertChain.credId).Nodup
          ∧ 0 ∉ run.1.chains.map RoleCertChain.credId)
      ∧ (∀ entry ∈ run.1.gRoles, ∀ chain ∈ entry.chains, ∃ posted,
        .posted entry.publicKey posted ∈ run.2 ∧ posted.validKey = some entry.publicKey
          ∧ posted.chain.certificate = chain.certificate)
      ∧ (∀ entry ∈ run.1.gRoles, entry.chains.Pairwise
        (fun a b => isSameSecKey a.certificate b.certificate = false))
      ∧ ∀ op k, op.peerKey ≠ some k → (run.1.step op).1.entriesOf k = run.1.entriesOf k := by
  have h := run_storeInv ops
  refine ⟨h.single, ?_, fun entry hentry => (h.entries entry hentry).posted,
    fun entry hentry => (h.entries entry hentry).different, fun op k hne => step_others hne _⟩
  intro hfew
  have hids := h.ids hfew
  refine ⟨hids.nodup, ?_⟩
  intro hzero
  obtain ⟨chain, hchain, hid⟩ := mem_map.mp hzero
  have hpos := (hids.range chain hchain).1
  rw [hid] at hpos
  simp at hpos

end

open Option

def Tm.key (date : Tm) : ℤ ×ₗ ℤ ×ₗ ℤ ×ₗ ℤ ×ₗ ℤ ×ₗ ℤ :=
  toLex (date.tmYear, toLex (date.tmMon, toLex (date.tmMday, toLex (date.tmHour,
    toLex (date.tmMin, date.tmSec)))))

lemma fieldBefore_iff (before after : Int) (rest : Bool) :
    fieldBefore before after rest = true ↔ before < after ∨ (before = after ∧ rest = true) := by
  rw [fieldBefore]
  split
  · rename_i h
    constructor
    · exact fun hfalse => absurd hfalse Bool.false_ne_true
    · rintro (hlt | ⟨rfl, -⟩)
      · omega
      · omega
  rename_i h
  split
  · rename_i heq
    subst heq
    simp
  rename_i hne
  exact iff_of_true rfl (.inl (lt_of_le_of_ne (not_lt.mp h) hne))

lemma isBefore_iff (before after : Tm) :
    isBefore before after = true ↔ before.key < after.key := by
  simp [isBefore, fieldBefore_iff, Tm.key, Prod.Lex.toLex_lt_toLex]

lemma isBefore_irrefl (date : Tm) : isBefore date date = false := by
  rw [← Bool.not_eq_true, isBefore_iff]
  exact lt_irrefl _

lemma isBefore_trans {a b c : Tm} (hab : isBefore a b = true) (hbc : isBefore b c = true) :
    isBefore a c = true := by
  rw [isBefore_iff] at hab hbc ⊢
  exact lt_trans hab hbc

def deadline (results : List ChainResult) : Tm :=
  results.foldl (fun date result => earlierDate date result.notValidAfter) Tm.zero

lemma foldl_earlierDate {date : Tm} {post : List ChainResult} {acc : Tm}
    (hacc : isBefore date acc = false) (hset : post ≠ [] → acc.tmYear ≠ 0)
    (hpost : ∀ result ∈ post.dropLast, result.notValidAfter.tmYear ≠ 0) :
    isBefore date (post.foldl (fun date result => earlierDate date result.notValidAfter) acc)
      = false := by
  induction post generalizing acc with
  | nil => exact hacc
  | cons result post ih =>
    rw [foldl_cons]
    have hyear := hset (cons_ne_nil _ _)
    have hresult : post ≠ [] → result.notValidAfter.tmYear ≠ 0 := by
      intro hne
      apply hpost
      rw [dropLast_cons_of_ne_nil hne]
      exact mem_cons_self
    have hrest : ∀ later ∈ post.dropLast, later.notValidAfter.tmYear ≠ 0 := by
      intro later hlater
      apply hpost
      rw [dropLast_cons_of_ne_nil (by rintro rfl; exact not_mem_nil hlater)]
      simp [hlater]
    rw [earlierDate]
    by_cases hbefore : isBefore result.notValidAfter acc = true
    · rw [if_pos (.inr hbefore)]
      apply ih _ hresult hrest
      rw [← Bool.not_eq_true] at hacc ⊢
      exact fun h => hacc (isBefore_trans h hbefore)
    rw [if_neg (not_or.mpr ⟨hyear, hbefore⟩)]
    exact ih hacc (fun _ => hyear) hrest

lemma deadline_le {pre post : List ChainResult} {result : ChainResult}
    (hset : ∀ later ∈ (result :: post).dropLast, later.notValidAfter.tmYear ≠ 0) :
    isBefore result.notValidAfter (deadline (pre ++ result :: post)) = false := by
  rw [deadline, foldl_append, foldl_cons]
  generalize pre.foldl (fun date result => earlierDate date result.notValidAfter) Tm.zero = acc
  have hhere : post ≠ [] → result.notValidAfter.tmYear ≠ 0 := by
    intro hne
    apply hset
    rw [dropLast_cons_of_ne_nil hne]
    exact mem_cons_self
  have hpost : ∀ later ∈ post.dropLast, later.notValidAfter.tmYear ≠ 0 := by
    intro later hlater
    apply hset
    rw [dropLast_cons_of_ne_nil (by rintro rfl; exact not_mem_nil hlater)]
    simp [hlater]
  rw [earlierDate]
  split
  · exact foldl_earlierDate (isBefore_irrefl _) hhere hpost
  rename_i hkeep
  rw [not_or, Bool.not_eq_true] at hkeep
  exact foldl_earlierDate hkeep.2 (fun _ => hkeep.1) hpost

/-! ## One entry -/

structure CacheFits (results : List ChainResult) (entry : RolesEntry) : Prop where
  cacheValidUntil : entry.cacheValidUntil = deadline results
  cachedRoles : entry.cachedRoles = results.flatMap ChainResult.roles

lemma verifyChains_some {verify : RoleCertChain → ChainResult} {chains : List RoleCertChain}
    {date date' : Tm} {roles roles' : List OicSecRole}
    (h : (verifyChains verify date roles chains).2 = some (date', roles')) :
    date' = (chains.map verify).foldl (fun date result => earlierDate date result.notValidAfter)
        date
      ∧ roles' = roles ++ (chains.map verify).flatMap ChainResult.roles := by
  induction chains generalizing date roles with
  | nil =>
    rw [verifyChains, Option.some.injEq, Prod.mk.injEq] at h
    rw [map_nil, flatMap_nil, append_nil]
    exact ⟨h.1.symm, h.2.symm⟩
  | cons chain rest ih =>
    rw [verifyChains] at h
    rw [map_cons, foldl_cons, flatMap_cons]
    cases hverify : verify chain with
    | invalid =>
      rw [hverify] at h
      exact ih h
    | valid roles₁ notValidAfter realloc =>
      rw [hverify] at h
      cases realloc with
      | false => cases h
      | true =>
        obtain ⟨hdate, hroles⟩ := ih h
        rw [append_assoc] at hroles
        exact ⟨hdate, hroles⟩

/-- The results that the cache is made of after a call: those of the call, if it
verified the chains and had memory for the roles. -/
def lastVerified (call : RolesCall) (entry : RolesEntry) (before : List ChainResult) :
    List ChainResult :=
  if isBefore (call.now.getD Tm.zero) entry.cacheValidUntil then before
  else if call.hasTrustedCa = false then []
  else
    match (verifyChains call.verify Tm.zero [] entry.chains).2 with
    | some _ => entry.chains.map call.verify
    | none => []

lemma entryRoles_fits {before : List ChainResult} {entry : RolesEntry}
    (h : CacheFits before entry) (call : RolesCall) :
    CacheFits (lastVerified call entry before) (entryRoles call entry).1 := by
  rw [entryRoles, lastVerified]
  split
  · exact h
  split
  · exact ⟨rfl, rfl⟩
  rcases hverify : verifyChains call.verify Tm.zero [] entry.chains with
    ⟨kept, _ | ⟨date, roles⟩⟩
  · exact ⟨rfl, rfl⟩
  obtain ⟨hdate, hroles⟩ := verifyChains_some (congrArg Prod.snd hverify)
  rw [nil_append] at hroles
  exact ⟨hdate, hroles⟩

def Dropped (entry : RolesEntry) : Prop := CacheFits [] entry

lemma addToEntry_dropped {entry : RolesEntry} (h : Dropped entry) (posted : PostedChain)
    (gIdCounter : UInt32) : Dropped (addToEntry posted entry gIdCounter).1 := by
  rcases addToEntry_cases posted entry gIdCounter with ⟨success, hadd⟩ | ⟨hadd, -⟩
  · rw [hadd]
    exact h
  rw [hadd]
  exact ⟨h.cacheValidUntil, h.cachedRoles⟩

/-! ## The entry of a key -/

def RolesState.entry (k : List UInt8) (state : RolesState) : Option RolesEntry :=
  FirstMatch.lookup RolesEntry.publicKey k state.gRoles

lemma entry_eq_of_entriesOf {k : List UInt8} {state state' : RolesState}
    (h : state'.entriesOf k = state.entriesOf k) : state'.entry k = state.entry k := by
  rw [RolesState.entry, FirstMatch.lookup_eq_head?, RolesState.entry, FirstMatch.lookup_eq_head?]
  exact congrArg List.head? h

lemma entry_modify {k : List UInt8} {f : RolesEntry → RolesEntry}
    (hf : ∀ entry, entry.publicKey = k → (f entry).publicKey = k) (gRoles : List RolesEntry) :
    FirstMatch.lookup RolesEntry.publicKey k (FirstMatch.modify RolesEntry.publicKey k f gRoles)
      = (FirstMatch.lookup RolesEntry.publicKey k gRoles).map f := by
  rw [FirstMatch.lookup_eq_head?, FirstMatch.slot_modify_self hf, FirstMatch.lookup_eq_head?]
  cases FirstMatch.slot RolesEntry.publicKey k gRoles <;> rfl

def KeepsOrDrops (k : List UInt8) (before after : RolesState) : Prop :=
  after.entry k = before.entry k ∨ ∀ entry ∈ after.entry k, Dropped entry

lemma addRoleCertificate_keepsOrDrops (posted : PostedChain) (pubKey : List UInt8)
    (state : RolesState) :
    KeepsOrDrops pubKey state (addRoleCertificate posted pubKey state).1 := by
  rw [addRoleCertificate]
  split
  · exact .inl rfl
  split
  · rename_i targetEntry hlookup
    right
    have htarget := FirstMatch.key_of_lookup RolesEntry.publicKey hlookup
    have hkey := (addToEntry_publicKey posted (invalidateRoleCache targetEntry)
      state.gIdCounter).trans htarget
    have hafter := entry_modify (fun _ _ => hkey) state.gRoles
    rw [hlookup, map_some] at hafter
    intro entry hentry
    rw [← some.inj (hafter.symm.trans hentry)]
    exact addToEntry_dropped ⟨rfl, rfl⟩ posted _
  split
  · right
    have hkey := addToEntry_publicKey posted ⟨pubKey, [], Tm.zero, []⟩ state.gIdCounter
    have hafter : FirstMatch.lookup RolesEntry.publicKey pubKey
        ((addToEntry posted ⟨pubKey, [], Tm.zero, []⟩ state.gIdCounter).1 :: state.gRoles)
        = some (addToEntry posted ⟨pubKey, [], Tm.zero, []⟩ state.gIdCounter).1 := by
      rw [FirstMatch.lookup, find?_cons, decide_eq_true hkey]
    intro entry hentry
    rw [← some.inj (hafter.symm.trans hentry)]
    exact addToEntry_dropped ⟨rfl, rfl⟩ posted _
  · exact .inl rfl

lemma storeRoles_keepsOrDrops (pubKey : List UInt8) (chains : List PostedChain)
    (state : RolesState) : KeepsOrDrops pubKey state (storeRoles pubKey chains state) := by
  induction chains generalizing state with
  | nil => exact .inl rfl
  | cons posted rest ih =>
    have hfirst := addRoleCertificate_keepsOrDrops posted pubKey state
    rw [storeRoles]
    split <;> rename_i after heq <;> rw [heq] at hfirst
    · rcases ih after with hsame | hdropped
      · rw [KeepsOrDrops, hsame]
        exact hfirst
      · exact .inr hdropped
    · exact hfirst

lemma step_keepsOrDrops {op : RolesOp} (hop : ∀ endpoint callocKey call,
    op ≠ .roles endpoint callocKey call) (state : RolesState) (k : List UInt8) :
    KeepsOrDrops k state (state.step op).1 := by
  by_cases hpeer : op.peerKey = some k
  · cases op with
    | post peer chains =>
      simp only [RolesState.step, handleRolesPost]
      split
      · rename_i peerPubKey chains
        split
        · rename_i pubKey hvalidate
          rcases (validateRoles_spec hvalidate).2 with ⟨rfl, -⟩ | rfl
          · exact .inl rfl
          rw [← some.inj hpeer]
          exact storeRoles_keepsOrDrops pubKey chains state
        · exact .inl rfl
      · exact .inl rfl
    | delete query peer =>
      simp only [RolesState.step, handleRolesDelete]
      split
      · exact .inl rfl
      split
      · split
        · exact .inl rfl
        rename_i credId hquery _ peerPubKey _ old hlookup
        right
        have hafter := @entry_modify peerPubKey (deleteFromEntry credId) (fun _ h => h) state.gRoles
        rw [hlookup, map_some] at hafter
        intro entry hentry
        rw [← some.inj hpeer] at hentry
        rw [← some.inj (hafter.symm.trans hentry)]
        exact ⟨rfl, rfl⟩
      · exact .inl rfl
    | roles endpoint callocKey call => exact absurd rfl (hop endpoint callocKey call)
  · exact .inl (entry_eq_of_entriesOf (step_others hpeer state))

/-! ## Runs -/

structure CacheRun where
  state : RolesState
  verified : List UInt8 → List ChainResult

def CacheRun.init : CacheRun := ⟨RolesState.init, fun _ => []⟩

/-- An answer from the cache: the time of the call, if it was known, the roles, and the
results of the last verification. -/
structure CachedAnswer where
  now : Option Tm
  roles : List OicSecRole
  verified : List ChainResult

variable (run : CacheRun)

/-- The results after an operation. Where a POST or a DELETE has changed the entry of a
key, there has been no verification since. -/
def CacheRun.verifiedAfter (op : RolesOp) (k : List UInt8) : List ChainResult :=
  match op with
  | .roles endpoint callocKey call =>
    if (getPeerPublicKey endpoint callocKey).key = some k then
      match run.state.entry k with
      | some entry => lastVerified call entry (run.verified k)
      | none => run.verified k
    else run.verified k
  | _ => if (run.state.step op).1.entry k = run.state.entry k then run.verified k else []

def CacheRun.step (op : RolesOp) : CacheRun × List CachedAnswer :=
  (⟨(run.state.step op).1, run.verifiedAfter op⟩,
    match op with
    | .roles endpoint callocKey call =>
      match (getEndpointRoles endpoint callocKey call run.state).2,
        (getPeerPublicKey endpoint callocKey).key with
      | .cached roles, some k => [⟨call.now, roles, run.verified k⟩]
      | _, _ => []
    | _ => [])

structure CachedAnswer.Good (answer : CachedAnswer) : Prop where
  roles : answer.roles = answer.verified.flatMap ChainResult.roles
  alive : ∀ now ∈ answer.now, ∀ roles date realloc,
    .valid roles date realloc ∈ answer.verified → isBefore date now = false

/-- Of the chains that verified, those that are forgotten have not expired: the ones from which on
there is a date without a year that is not the last. Only an invalid chain has no year, and one that
expired in 1900. -/
def ForgottenAlive (verified : List ChainResult) (now : Tm) : Prop :=
  ∀ pre result post, verified = pre ++ result :: post → result ≠ .invalid →
    (∃ later ∈ (result :: post).dropLast, later.notValidAfter.tmYear = 0) →
      isBefore result.notValidAfter now = false

def RolesOp.ForgetsNone : RolesOp → Prop
  | .roles endpoint callocKey call =>
    ∀ k ∈ (getPeerPublicKey endpoint callocKey).key, ∀ entry ∈ run.state.entry k,
      ∀ now ∈ call.now, isBefore now entry.cacheValidUntil = true → call.calloc = true →
        entry.cachedRoles ≠ [] → ForgottenAlive (run.verified k) now
  | _ => True

def CacheRun.Inv : Prop :=
  ∀ k, ∀ entry ∈ run.state.entry k, CacheFits (run.verified k) entry

lemma forgottenAlive_iff {verified : List ChainResult} {now : Tm}
    (h : isBefore now (deadline verified) = true) :
    (∀ roles date realloc, .valid roles date realloc ∈ verified → isBefore date now = false)
      ↔ ForgottenAlive verified now := by
  constructor
  · rintro halive pre result post rfl hvalid -
    cases result with
    | invalid => exact absurd rfl hvalid
    | valid roles date realloc =>
      apply halive roles date realloc
      simp
  · intro hforgotten roles date realloc hmem
    obtain ⟨pre, post, rfl⟩ := append_of_mem hmem
    by_cases hset : ∀ later ∈ (ChainResult.valid roles date realloc :: post).dropLast,
        later.notValidAfter.tmYear ≠ 0
    · -- the deadline is not after this date, and it has not passed
      have hle := @deadline_le pre post _ hset
      rw [← Bool.not_eq_true] at hle ⊢
      exact fun hpast => hle (isBefore_trans hpast h)
    simp only [not_forall, not_not] at hset
    obtain ⟨later, hlater, hyear⟩ := hset
    exact hforgotten pre _ post rfl (by simp) ⟨later, hlater, hyear⟩

lemma entryRoles_cached {call : RolesCall} {entry : RolesEntry} {roles : List OicSecRole} :
    (entryRoles call entry).2 = .cached roles
      ↔ isBefore (call.now.getD Tm.zero) entry.cacheValidUntil = true
        ∧ call.calloc = true ∧ entry.cachedRoles ≠ [] ∧ entry.cachedRoles = roles := by
  rw [entryRoles]
  split
  · rename_i hbefore
    simp only [copyRoles, hbefore, true_and]
    split
    · rename_i hcopy
      simp [hcopy]
    rename_i hcopy
    simp only [reduceCtorEq, false_iff]
    exact fun h => hcopy ⟨h.1, h.2.1⟩
  rename_i hbefore
  rw [iff_false_right (hbefore ·.1)]
  split
  · simp
  split
  · simp only [copyRoles]
    split <;> simp
  · simp

lemma getEndpointRoles_entry {endpoint : Option CASecureEndpoint} {callocKey : Bool}
    {k : List UInt8} (hpeer : (getPeerPublicKey endpoint callocKey).key = some k)
    (call : RolesCall) (state : RolesState) :
    (getEndpointRoles endpoint callocKey call state).1.entry k
        = (state.entry k).map (fun entry => (entryRoles call entry).1)
      ∧ (getEndpointRoles endpoint callocKey call state).2
        = match state.entry k with
          | some entry => (entryRoles call entry).2
          | none => .verified [] := by
  have hok : getPeerPublicKey endpoint callocKey = .ok k := by
    generalize getPeerPublicKey endpoint callocKey = peer at hpeer
    cases peer with
    | ok publicKey => rw [some.inj hpeer]
    | invalidParam | noResource | noMemory => cases hpeer
  rw [getEndpointRoles, hok]
  simp only [RolesState.entry]
  cases hlookup : FirstMatch.lookup RolesEntry.publicKey k state.gRoles with
  | none => exact ⟨hlookup, rfl⟩
  | some entry =>
    have hkey := FirstMatch.key_of_lookup RolesEntry.publicKey hlookup
    have hafter := entry_modify (fun _ _ => (entryRoles_shrinks call entry).publicKey.trans hkey)
      state.gRoles
    rw [hlookup] at hafter
    exact ⟨hafter, rfl⟩

lemma cacheInv_step {run : CacheRun} (h : run.Inv) (op : RolesOp) : (run.step op).1.Inv := by
  intro k entry hentry
  have hstate : (run.step op).1.state = (run.state.step op).1 := rfl
  have hverified : (run.step op).1.verified k = run.verifiedAfter op k := rfl
  rw [hstate] at hentry
  rw [hverified]
  by_cases hop : ∃ endpoint callocKey call, op = .roles endpoint callocKey call
  · obtain ⟨endpoint, callocKey, call, rfl⟩ := hop
    rw [CacheRun.verifiedAfter]
    split
    · rename_i hpeer
      have hafter := (getEndpointRoles_entry hpeer call run.state).1
      have hentry' := hafter.symm.trans hentry
      rw [map_eq_some_iff] at hentry'
      obtain ⟨old, hold, rfl⟩ := hentry'
      rw [hold]
      exact entryRoles_fits (h k old hold) call
    rename_i hpeer
    have hother : (RolesOp.roles endpoint callocKey call).peerKey ≠ some k := hpeer
    rw [entry_eq_of_entriesOf (step_others hother run.state)] at hentry
    exact h k entry hentry
  have hop' : ∀ endpoint callocKey call, op ≠ .roles endpoint callocKey call :=
    fun endpoint callocKey call heq => hop ⟨endpoint, callocKey, call, heq⟩
  have hafter : run.verifiedAfter op k
      = if (run.state.step op).1.entry k = run.state.entry k then run.verified k else [] := by
    cases op with
    | post | delete => rfl
    | roles endpoint callocKey call => exact absurd rfl (hop' endpoint callocKey call)
  rw [hafter]
  split
  · rename_i hsame
    rw [hsame] at hentry
    exact h k entry hentry
  rename_i hchanged
  exact ((step_keepsOrDrops hop' run.state k).resolve_left hchanged) entry hentry

lemma cachedAnswer_good {verified : List ChainResult} {entry : RolesEntry}
    (h : CacheFits verified entry) {call : RolesCall} {roles : List OicSecRole}
    (hcached : (entryRoles call entry).2 = .cached roles) :
    CachedAnswer.Good ⟨call.now, roles, verified⟩
      ↔ ∀ now ∈ call.now, isBefore now entry.cacheValidUntil = true → call.calloc = true →
        entry.cachedRoles ≠ [] → ForgottenAlive verified now := by
  obtain ⟨hbefore, hcalloc, hne, hroles⟩ := entryRoles_cached.mp hcached
  constructor
  · rintro ⟨-, halive⟩ now hnow hvalid - -
    rw [h.cacheValidUntil] at hvalid
    exact (forgottenAlive_iff hvalid).mp (halive now hnow)
  · intro hforgotten
    refine ⟨hroles.symm.trans h.cachedRoles, ?_⟩
    intro now hnow
    have hsome : call.now = some now := hnow
    rw [hsome, getD_some] at hbefore
    have hfits := hbefore
    rw [h.cacheValidUntil] at hfits
    exact (forgottenAlive_iff hfits).mpr (hforgotten now hnow hbefore hcalloc hne)

lemma cacheStep_good {run : CacheRun} (h : run.Inv) (op : RolesOp) :
    (∀ answer ∈ (run.step op).2, answer.Good) ↔ op.ForgetsNone run := by
  by_cases hop : ∃ endpoint callocKey call, op = .roles endpoint callocKey call
  · obtain ⟨endpoint, callocKey, call, rfl⟩ := hop
    simp only [CacheRun.step, RolesOp.ForgetsNone]
    cases hpeer : (getPeerPublicKey endpoint callocKey).key with
    | none =>
      refine iff_of_true (fun answer hmem => ?_) (fun k hk => by cases hk)
      split at hmem
      · rename_i heq
        cases heq
      · cases hmem
    | some k =>
      obtain ⟨-, hanswer⟩ := getEndpointRoles_entry hpeer call run.state
      rw [hanswer]
      simp only [mem_some_iff, forall_eq']
      cases hentry : run.state.entry k with
      | none => exact iff_of_true (fun _ hmem => absurd hmem not_mem_nil) (by simp)
      | some entry =>
        simp only [mem_some_iff, forall_eq']
        by_cases hcached : ∃ roles, (entryRoles call entry).2 = .cached roles
        · obtain ⟨roles, hresult⟩ := hcached
          simp only [hresult, mem_singleton, forall_eq]
          exact cachedAnswer_good (h k entry hentry) hresult
        refine iff_of_true (fun answer hmem => ?_) (fun now hnow hvalid hcalloc hne => ?_)
        · split at hmem
          · rename_i roles _ heq _
            exact absurd ⟨roles, heq⟩ hcached
          · cases hmem
        · exfalso
          apply hcached
          refine ⟨entry.cachedRoles, entryRoles_cached.mpr ⟨?_, hcalloc, hne, rfl⟩⟩
          rwa [hnow, getD_some]
  cases op with
  | post | delete => exact iff_of_true (fun _ hmem => absurd hmem not_mem_nil) trivial
  | roles endpoint callocKey call => exact absurd ⟨endpoint, callocKey, call, rfl⟩ hop

lemma cacheInv_init : CacheRun.init.Inv := by
  intro k entry hentry
  cases hentry

/-- **The cache over whole runs.** The answers from the cache in a run are right, with
the roles of the chains that verified and none of these expired, exactly when no call
forgets a chain that has expired. -/
theorem cached_roles_iff (ops : List RolesOp) :
    (∀ answer ∈ (Runs.run CacheRun.step CacheRun.init ops).2, answer.Good)
      ↔ Runs.Along CacheRun.step (fun run op => op.ForgetsNone run) CacheRun.init ops := by
  apply Runs.run_log_iff CacheRun.Inv
  · intro run op hrun
    exact ⟨cacheStep_good hrun op, fun _ => cacheInv_step hrun op⟩
  · exact cacheInv_init

def yearStart (year : Int) : Tm := ⟨year, 0, 1, 0, 0, 0⟩

def mixedChains (chain : RoleCertChain) : ChainResult :=
  if chain.credId = 1 then .valid [⟨"first", ""⟩] (yearStart 120) true
  else if chain.credId = 2 then .invalid
  else .valid [⟨"third", ""⟩] (yearStart 130) true

def postedMixed (byte : UInt8) : PostedChain :=
  ⟨⟨0, some [byte, 0], .der⟩, true, some [1], true, true⟩

def mixedRun : List RolesOp :=
  [.post (.ok [1]) (some [postedMixed 1, postedMixed 2, postedMixed 3]),
    .roles (some ⟨[1], none⟩) true ⟨some (yearStart 119), true, mixedChains, true⟩,
    .roles (some ⟨[1], none⟩) true ⟨some (yearStart 125), true, mixedChains, true⟩]

theorem mixedRun_outlives :
    ¬∀ answer ∈ (Runs.run CacheRun.step CacheRun.init mixedRun).2, answer.Good := by
  have hlog : (Runs.run CacheRun.step CacheRun.init mixedRun).2
      = [⟨some (yearStart 125), [⟨"first", ""⟩, ⟨"third", ""⟩],
        [.valid [⟨"first", ""⟩] (yearStart 120) true, .invalid,
          .valid [⟨"third", ""⟩] (yearStart 130) true]⟩] := rfl
  rw [hlog]
  intro hgood
  have halive := (hgood _ (mem_singleton.mpr rfl)).alive (yearStart 125) rfl _ _ _ mem_cons_self
  exact absurd halive (by decide)

end Iochibity.Sec
