/-
The keep-alive table, `oickeepalive.c`.

Allocations succeed.
-/
import Iochibity.Coap.Message
import Iochibity.Lib.Runs
import Iochibity.Lib.Sweep
import Iochibity.Lib.FirstMatch

namespace Iochibity.Ocf.KeepAlive

open Coap (CString CAEndpoint)
open List

/-- `OCMode`, of an entry. -/
inductive Mode
  | client
  | server
  deriving DecidableEq

structure KeepAliveEntry where
  mode : Mode
  remoteAddr : CAEndpoint
  interval : Int64
  currIndex : ℕ
  intervalSize : ℕ
  intervalInfo : List Int64
  sentPingMsg : Bool
  timeStamp : UInt64
  pingSent : UInt64
  lastPing : UInt64

def keepaliveResponseTimeoutSec : Int64 := 60

def usecsPerSec : Int64 := 1000000

/-- The intervals of an entry that gets none: `KEEPALIVE_MIN_INTERVAL << i` for
`DEFAULT_INTERVAL_COUNT` indices. -/
def defaultIntervals : List Int64 := [2, 4, 8, 16, 32, 64]

def endpointKey (endpoint : CAEndpoint) : CString × UInt16 := (endpoint.addr, endpoint.port)

def KeepAliveEntry.key (entry : KeepAliveEntry) : CString × UInt16 :=
  endpointKey entry.remoteAddr

/-- `GetEntryFromEndpoint` finds the entry. -/
def KeepAliveEntry.isAt (endpoint : CAEndpoint) (entry : KeepAliveEntry) : Bool :=
  entry.key = endpointKey endpoint

section

variable (now : UInt64)

/-- `AddKeepAliveEntry`; an empty array is none. -/
def addKeepAliveEntry (endpoint : CAEndpoint) (mode : Mode)
    (intervalInfo : List Int64) : KeepAliveEntry :=
  let intervals := if intervalInfo = [] then defaultIntervals else intervalInfo
  ⟨mode, endpoint, intervals.headD 0, 0, defaultIntervals.length, intervals, false, now, now, now⟩

/-- Change the entry that `GetEntryFromEndpoint` finds. -/
def updateEntry (endpoint : CAEndpoint) (change : KeepAliveEntry → KeepAliveEntry) :
    List KeepAliveEntry → List KeepAliveEntry
  | [] => []
  | entry :: table =>
    if entry.isAt endpoint then change entry :: table
    else entry :: updateEntry endpoint change table

def removeKeepAliveEntry (endpoint : CAEndpoint) (table : List KeepAliveEntry) :
    List KeepAliveEntry :=
  table.eraseP (KeepAliveEntry.isAt endpoint)

section

variable (entry : KeepAliveEntry)

def sendPingMessage : KeepAliveEntry :=
  { entry with timeStamp := now, sentPingMsg := true, pingSent := now }

def increaseInterval : KeepAliveEntry :=
  if entry.currIndex + 1 < entry.intervalSize then
    { entry with
      currIndex := entry.currIndex + 1
      interval := entry.intervalInfo.getD (entry.currIndex + 1) 0 }
  else entry

/-- What `HandleKeepAlivePOSTRequest` does to its entry. -/
def receivePing (interval : Int64) (entry : KeepAliveEntry) : KeepAliveEntry :=
  { entry with interval := interval, timeStamp := now, lastPing := now }

def handleKeepAlivePOSTRequest (endpoint : CAEndpoint) (interval : Int64)
    (table : List KeepAliveEntry) : List KeepAliveEntry :=
  if table.any (KeepAliveEntry.isAt endpoint) then
    updateEntry endpoint (receivePing now interval) table
  else table ++ [receivePing now interval (addKeepAliveEntry now endpoint .server [])]

/-- What a response to a ping says: `OC_STACK_OK`, or something else. -/
structure PingResponse where
  ok : Bool
  inarray : List Int64
  deriving DecidableEq

/-- `HandleKeepAliveResponse`. `sends` says whether the first ping can be sent. -/
def handleKeepAliveResponse (sends : Bool) (endPoint : CAEndpoint) (response : PingResponse)
    (table : List KeepAliveEntry) : List KeepAliveEntry :=
  if table.any (KeepAliveEntry.isAt endPoint) then
    updateEntry endPoint ({ · with sentPingMsg := false }) table
  else if response.ok then
    let added := addKeepAliveEntry now endPoint .client response.inarray
    let sized := if response.inarray = [] then added
      else { added with intervalSize := response.inarray.length }
    table ++ [if sends then sendPingMessage now sized else sized]
  else table

/-! ## A pass -/

def KeepAliveEntry.intervalUs : UInt64 :=
  (entry.interval * keepaliveResponseTimeoutSec * usecsPerSec).toUInt64

def responseTimeoutUs : UInt64 := (keepaliveResponseTimeoutSec * usecsPerSec).toUInt64

def KeepAliveEntry.disconnects : Bool :=
  match entry.mode with
  | .client => entry.sentPingMsg ∧ responseTimeoutUs ≤ now - entry.timeStamp
  | .server => entry.intervalUs ≤ now - entry.timeStamp

def KeepAliveEntry.pings : Bool :=
  entry.mode = .client ∧ entry.sentPingMsg = false ∧ entry.intervalUs ≤ now - entry.timeStamp

end

end

structure PassWorld where
  now : UInt64
  sends : KeepAliveEntry → Bool
  freed : KeepAliveEntry → CAEndpoint

def KeepAliveEntry.afterTurn (world : PassWorld) (entry : KeepAliveEntry) : KeepAliveEntry :=
  if entry.pings world.now then
    if world.sends entry then sendPingMessage world.now (increaseInterval entry)
    else increaseInterval entry
  else entry

structure Processed where
  table : List KeepAliveEntry
  examined : List KeepAliveEntry
  sent : List CAEndpoint

/-- The loop of `ProcessKeepAlive`, with so many indices to go. -/
def processLoop (world : PassWorld) : ℕ → ℕ → List KeepAliveEntry → Processed
  | 0, _, table => ⟨table, [], []⟩
  | left + 1, i, table =>
    match table[i]? with
    | none => processLoop world left (i + 1) table
    | some entry =>
      if entry.disconnects world.now then
        let processed := processLoop world left (i + 1)
          (removeKeepAliveEntry entry.remoteAddr table)
        { processed with
          examined := entry :: processed.examined
          sent := world.freed entry :: processed.sent }
      else
        let processed := processLoop world left (i + 1) (table.set i (entry.afterTurn world))
        { processed with examined := entry :: processed.examined }

def processKeepAlive (world : PassWorld) (table : List KeepAliveEntry) : Processed :=
  processLoop world table.length 0 table

inductive KeepAliveEvent
  | disconnected (endpoint : CAEndpoint)
  | pingRequest (now : UInt64) (endpoint : CAEndpoint) (interval : Int64)
  | pingResponse (now : UInt64) (sends : Bool) (endpoint : CAEndpoint) (response : PingResponse)
  | process (world : PassWorld)

structure KeepAliveState where
  table : List KeepAliveEntry
  clock : UInt64

def keepAliveStep (state : KeepAliveState) : KeepAliveEvent → KeepAliveState × List CAEndpoint
  | .disconnected endpoint =>
    ({ state with table := removeKeepAliveEntry endpoint state.table }, [])
  | .pingRequest now endpoint interval =>
    (⟨handleKeepAlivePOSTRequest now endpoint interval state.table, now⟩, [])
  | .pingResponse now sends endpoint response =>
    (⟨handleKeepAliveResponse now sends endpoint response state.table, now⟩, [])
  | .process world =>
    (⟨(processKeepAlive world state.table).table, world.now⟩,
      (processKeepAlive world state.table).sent)

def TimeAscends (state : KeepAliveState) : KeepAliveEvent → Prop
  | .disconnected _ => True
  | .pingRequest now _ _ => state.clock ≤ now
  | .pingResponse now _ _ _ => state.clock ≤ now
  | .process world => state.clock ≤ world.now

open UniqueKeys (Unique)

def minuteUs : ℤ := 60000000

/-- The entry has waited too long: a client entry 60 seconds for the response to its ping, a
server entry its interval for the next ping. -/
def KeepAliveEntry.expired (now : UInt64) (entry : KeepAliveEntry) : Bool :=
  match entry.mode with
  | .client => entry.sentPingMsg ∧ minuteUs ≤ (now.toNat : ℤ) - entry.pingSent.toNat
  | .server => entry.interval.toInt * minuteUs ≤ (now.toNat : ℤ) - entry.lastPing.toNat

/-- **A pass is exact**: it examines every entry once, in order, and disconnects those that are
expired, each at its own address. -/
structure PassExact (world : PassWorld) (table : List KeepAliveEntry) : Prop where
  examines : (processKeepAlive world table).examined = table
  keeps : (processKeepAlive world table).table.map KeepAliveEntry.key
    = (table.filter (!·.expired world.now)).map KeepAliveEntry.key
  sends : (processKeepAlive world table).sent
    = (table.filter (KeepAliveEntry.expired world.now)).map KeepAliveEntry.remoteAddr

/-- **A step is exact**: the table keeps one entry per address and port, with valid indices, and
a pass is exact. -/
structure StepExact (state : KeepAliveState) (event : KeepAliveEvent) : Prop where
  unique : Unique KeepAliveEntry.key (keepAliveStep state event).1.table
  index : ∀ entry ∈ (keepAliveStep state event).1.table, entry.currIndex < entry.intervalInfo.length
  pass : ∀ world, event = .process world → PassExact world state.table

/-- The comparison of a pass comes out right: no ping from the other side has put off the end of the
wait for the response, and the interval times 60 000 000, in 64 bits, is on the same side of the
time since the last ping. -/
def KeepAliveEntry.Judged (now : UInt64) (entry : KeepAliveEntry) : Prop :=
  match entry.mode with
  | .client => entry.sentPingMsg = true →
      minuteUs ≤ (now.toNat : ℤ) - entry.pingSent.toNat →
      minuteUs ≤ (now.toNat : ℤ) - entry.timeStamp.toNat
  | .server =>
    entry.interval.toInt * minuteUs % 2 ^ 64 ≤ (now.toNat : ℤ) - entry.lastPing.toNat
      ↔ entry.interval.toInt * minuteUs ≤ (now.toNat : ℤ) - entry.lastPing.toNat

/-- The pass disconnects the last entry at most, every comparison comes out right, and the address
of the one that is disconnected is still there when it is freed. -/
def PassClean (state : KeepAliveState) : KeepAliveEvent → Prop
  | .process world =>
    (∀ entry ∈ state.table, entry.Judged world.now)
      ∧ (∀ entry ∈ state.table.dropLast, entry.disconnects world.now = false)
      ∧ ∀ entry ∈ state.table, entry.disconnects world.now = true →
        world.freed entry = entry.remoteAddr
  | _ => True

/-- What every run keeps of an entry: its index is valid, and its stamp is that of the last ping
from a client or not before that of the last ping to a server. -/
structure EntryOk (clock : UInt64) (entry : KeepAliveEntry) : Prop where
  index : entry.currIndex < entry.intervalInfo.length
  size : entry.intervalSize = entry.intervalInfo.length
  stamp : entry.timeStamp ≤ clock
  sent : entry.pingSent ≤ entry.timeStamp
  last : entry.mode = .server → entry.lastPing = entry.timeStamp

lemma intervalUs_toNat (entry : KeepAliveEntry) :
    (entry.intervalUs.toNat : ℤ) = entry.interval.toInt * minuteUs % 2 ^ 64 := by
  have hbits : ∀ a : Int64, (a.toUInt64.toNat : ℤ) = a.toInt % (2 ^ 64 : ℕ) := by
    intro a
    show (a.toBitVec.toNat : ℤ) = a.toBitVec.toInt % (2 ^ 64 : ℕ)
    rw [BitVec.toInt_eq_toNat_bmod, Int.bmod_emod]
    omega
  unfold KeepAliveEntry.intervalUs
  rw [hbits, Int64.toInt_mul, Int.bmod_emod, Int64.toInt_mul, Int.mul_emod, Int.bmod_emod,
    ← Int.mul_emod, Int.mul_assoc]
  rfl

variable {now : UInt64}

lemma elapsed_toNat {stamp : UInt64} (h : stamp ≤ now) :
    ((now - stamp).toNat : ℤ) = (now.toNat : ℤ) - stamp.toNat := by
  have hle := UInt64.le_iff_toNat_le.mp h
  rw [UInt64.toNat_sub_of_le now stamp h]
  omega

lemma responseTimeoutUs_toNat : (responseTimeoutUs.toNat : ℤ) = minuteUs := by decide

variable {clock : UInt64} {entry : KeepAliveEntry}

lemma disconnects_eq_expired_iff (hok : EntryOk clock entry) (hnow : clock ≤ now) :
    entry.disconnects now = entry.expired now ↔ entry.Judged now := by
  have helapsed := elapsed_toNat (UInt64.le_trans hok.stamp hnow)
  unfold KeepAliveEntry.disconnects KeepAliveEntry.expired KeepAliveEntry.Judged
  rw [Bool.eq_iff_iff]
  cases hmode : entry.mode with
  | client =>
    have hsent := UInt64.le_iff_toNat_le.mp hok.sent
    have hwait : responseTimeoutUs ≤ now - entry.timeStamp
        ↔ minuteUs ≤ (now.toNat : ℤ) - entry.timeStamp.toNat := by
      rw [UInt64.le_iff_toNat_le, ← helapsed, ← responseTimeoutUs_toNat, Int.ofNat_le]
    dsimp only
    rw [decide_eq_true_iff, decide_eq_true_iff, hwait, and_congr_right_iff]
    refine imp_congr_right (fun _ => ⟨fun h => h.mpr, fun h => ⟨fun hlong => ?_, h⟩⟩)
    omega
  | server =>
    dsimp only
    rw [decide_eq_true_iff, decide_eq_true_iff, UInt64.le_iff_toNat_le, ← Int.ofNat_le,
      helapsed, intervalUs_toNat, hok.last hmode]

/-! ## The loop of a pass -/

def KeepAliveEntry.turn (world : PassWorld) (entry : KeepAliveEntry) : Option KeepAliveEntry :=
  if entry.disconnects world.now then none else some (entry.afterTurn world)

lemma afterTurn_key (world : PassWorld) (entry : KeepAliveEntry) :
    (entry.afterTurn world).key = entry.key := by
  unfold KeepAliveEntry.afterTurn increaseInterval sendPingMessage
  split
  · split <;> split <;> rfl
  · rfl

variable {table : List KeepAliveEntry}

lemma removeKeepAliveEntry_eq_eraseIdx (hunique : Unique KeepAliveEntry.key table) {i : ℕ}
    (hget : table[i]? = some entry) :
    removeKeepAliveEntry entry.remoteAddr table = table.eraseIdx i := by
  unfold removeKeepAliveEntry
  induction table generalizing i with
  | nil => rfl
  | cons first table ih =>
    cases i with
    | zero =>
      rw [getElem?_cons_zero, Option.some.injEq] at hget
      rw [eraseP_cons_of_pos (by rw [hget]; exact decide_eq_true rfl), eraseIdx_cons_zero]
    | succ i =>
      rw [getElem?_cons_succ] at hget
      obtain ⟨hne, hrest⟩ := UniqueKeys.unique_cons.mp hunique
      have hother := hne entry (mem_of_getElem? hget)
      rw [eraseP_cons_of_neg (by
        rw [KeepAliveEntry.isAt, decide_eq_true_iff]
        exact fun h => hother h.symm), eraseIdx_cons_succ, ih hrest hget]

variable (world : PassWorld)

lemma processLoop_eq (left i : ℕ) (table : List KeepAliveEntry)
    (hunique : Unique KeepAliveEntry.key table) :
    processLoop world left i table
      = ⟨(SkippingSweep.loop (KeepAliveEntry.turn world) left i table).left,
          (SkippingSweep.loop (KeepAliveEntry.turn world) left i table).visited,
          (SkippingSweep.loop (KeepAliveEntry.turn world) left i table).removed.map
            world.freed⟩ := by
  induction left generalizing i table with
  | zero => rfl
  | succ left ih =>
    rw [processLoop, SkippingSweep.loop]
    cases hget : table[i]? with
    | none => exact ih (i + 1) table hunique
    | some entry =>
      dsimp only
      by_cases hend : entry.disconnects world.now = true
      · rw [if_pos hend, KeepAliveEntry.turn, if_pos hend,
          removeKeepAliveEntry_eq_eraseIdx hunique hget,
          ih (i + 1) _ (hunique.sublist (eraseIdx_sublist _ _))]
        rfl
      have hset : Unique KeepAliveEntry.key (table.set i (entry.afterTurn world)) := by
        have hsame : (table.map KeepAliveEntry.key)[i]? = some entry.key := by
          rw [getElem?_map, hget]
          rfl
        unfold UniqueKeys.Unique
        obtain ⟨hlt, hvalue⟩ := List.getElem?_eq_some_iff.mp hsame
        rw [map_set, afterTurn_key, ← hvalue, set_getElem_self]
        exact hunique
      rw [if_neg hend, KeepAliveEntry.turn, if_neg hend, ih (i + 1) _ hset]

lemma processKeepAlive_eq (hunique : Unique KeepAliveEntry.key table) :
    processKeepAlive world table
      = ⟨(SkippingSweep.walk (KeepAliveEntry.turn world) table).left,
          (SkippingSweep.walk (KeepAliveEntry.turn world) table).visited,
          (SkippingSweep.walk (KeepAliveEntry.turn world) table).removed.map world.freed⟩ := by
  have hwalk := SkippingSweep.loop_eq_walk (KeepAliveEntry.turn world) table.length [] table
    (Nat.le_refl _)
  rw [length_nil, nil_append, nil_append] at hwalk
  rw [processKeepAlive, processLoop_eq world _ _ _ hunique, hwalk]

/-! ## One pass -/

lemma turn_isSome (entry : KeepAliveEntry) :
    (entry.turn world).isSome = true ↔ entry.disconnects world.now = false := by
  unfold KeepAliveEntry.turn
  by_cases hend : entry.disconnects world.now = true
  · rw [if_pos hend, hend]
    exact iff_of_false nofun nofun
  rw [if_neg hend]
  simp [hend]

lemma filterMap_turn_keys (table : List KeepAliveEntry) :
    (table.filterMap (KeepAliveEntry.turn world)).map KeepAliveEntry.key
      = (table.filter (!·.disconnects world.now)).map KeepAliveEntry.key := by
  induction table with
  | nil => rfl
  | cons entry table ih =>
    rw [filterMap_cons]
    by_cases hend : entry.disconnects world.now = true
    · rw [KeepAliveEntry.turn, if_pos hend, filter_cons_of_neg (by rw [hend]; exact nofun)]
      exact ih
    rw [KeepAliveEntry.turn, if_neg hend, filter_cons_of_pos
      (by rw [Bool.eq_false_of_not_eq_true hend]; rfl)]
    dsimp only
    rw [map_cons, map_cons, afterTurn_key, ih]

lemma filter_keys_eq_iff (hunique : Unique KeepAliveEntry.key table) (p q : KeepAliveEntry → Bool) :
    (table.filter p).map KeepAliveEntry.key = (table.filter q).map KeepAliveEntry.key
      ↔ ∀ entry ∈ table, p entry = q entry := by
  constructor
  · intro hkeys
    have hone : ∀ p q : KeepAliveEntry → Bool,
        (table.filter p).map KeepAliveEntry.key = (table.filter q).map KeepAliveEntry.key →
        ∀ entry ∈ table, p entry = true → q entry = true := by
      intro p q hkeys entry hmem hp
      have hkey : entry.key ∈ (table.filter q).map KeepAliveEntry.key := by
        rw [← hkeys]
        exact mem_map_of_mem (mem_filter.mpr ⟨hmem, hp⟩)
      obtain ⟨other, hother, hsame⟩ := mem_map.mp hkey
      obtain ⟨hin, hq⟩ := mem_filter.mp hother
      rwa [← inj_on_of_nodup_map hunique hin hmem hsame]
    intro entry hmem
    rw [Bool.eq_iff_iff]
    exact ⟨hone p q hkeys entry hmem, hone q p hkeys.symm entry hmem⟩
  · intro hsame
    rw [filter_congr hsame]

lemma passExact_iff {world : PassWorld} (hunique : Unique KeepAliveEntry.key table)
    (hok : ∀ entry ∈ table, EntryOk clock entry) (hnow : clock ≤ world.now) :
    PassExact world table ↔ PassClean ⟨table, clock⟩ (.process world) := by
  have hpass := processKeepAlive_eq world hunique
  have hvisits : (processKeepAlive world table).examined = table
      ↔ ∀ entry ∈ table.dropLast, entry.disconnects world.now = false := by
    rw [hpass]
    exact (SkippingSweep.walk_visits_all_iff _ table).trans
      (forall₂_congr (fun entry _ => turn_isSome world entry))
  have hjudged : (∀ entry ∈ table, entry.Judged world.now)
      ↔ ∀ entry ∈ table, entry.disconnects world.now = entry.expired world.now :=
    forall₂_congr (fun entry hmem => (disconnects_eq_expired_iff (hok entry hmem) hnow).symm)
  -- What is left and what is sent, once every entry is examined.
  have hafter : (processKeepAlive world table).examined = table →
      (processKeepAlive world table).table = table.filterMap (KeepAliveEntry.turn world)
        ∧ (processKeepAlive world table).sent
          = (table.filter (KeepAliveEntry.disconnects world.now)).map world.freed := by
    intro hall
    rw [hpass] at hall ⊢
    refine ⟨SkippingSweep.walk_left_of_visits_all _ table hall, ?_⟩
    dsimp only at hall ⊢
    rw [SkippingSweep.walk_removed_eq, hall]
    refine congrArg _ (filter_congr (fun entry _ => ?_))
    unfold KeepAliveEntry.turn
    split
    · next hend => exact hend.symm
    · next hend => exact (Bool.eq_false_of_not_eq_true hend).symm
  have hkeeps : (processKeepAlive world table).examined = table →
      ((processKeepAlive world table).table.map KeepAliveEntry.key
          = (table.filter (!·.expired world.now)).map KeepAliveEntry.key
        ↔ ∀ entry ∈ table, entry.disconnects world.now = entry.expired world.now) := by
    intro hall
    rw [(hafter hall).1, filterMap_turn_keys, filter_keys_eq_iff hunique]
    exact forall₂_congr (fun entry _ => Bool.not_inj_iff)
  have hsends : (processKeepAlive world table).examined = table →
      (∀ entry ∈ table, entry.disconnects world.now = entry.expired world.now) →
      ((processKeepAlive world table).sent
          = (table.filter (KeepAliveEntry.expired world.now)).map KeepAliveEntry.remoteAddr
        ↔ ∀ entry ∈ table, entry.disconnects world.now = true →
          world.freed entry = entry.remoteAddr) := by
    intro hall hsame
    rw [(hafter hall).2, ← filter_congr hsame, map_inj_left]
    exact forall_congr' (fun entry => by rw [mem_filter, and_imp])
  constructor
  · intro hexact
    have hsame := (hkeeps hexact.examines).mp hexact.keeps
    exact ⟨hjudged.mpr hsame, hvisits.mp hexact.examines,
      (hsends hexact.examines hsame).mp hexact.sends⟩
  · rintro ⟨hall, hlast, hfreed⟩
    have hexamines := hvisits.mpr hlast
    have hsame := hjudged.mp hall
    exact ⟨hexamines, (hkeeps hexamines).mpr hsame, (hsends hexamines hsame).mpr hfreed⟩

/-! ## Entries along a run -/

lemma EntryOk.later (h : EntryOk clock entry) (hnow : clock ≤ now) : EntryOk now entry :=
  { h with stamp := UInt64.le_trans h.stamp hnow }

lemma addKeepAliveEntry_ok (now : UInt64) (endpoint : CAEndpoint) (mode : Mode) :
    EntryOk now (addKeepAliveEntry now endpoint mode []) where
  index := by
    show 0 < defaultIntervals.length
    decide
  size := rfl
  stamp := UInt64.le_refl _
  sent := UInt64.le_refl _
  last := fun _ => rfl

lemma receivePing_ok (h : EntryOk clock entry) (hnow : clock ≤ now)
    (interval : Int64) : EntryOk now (receivePing now interval entry) where
  index := h.index
  size := h.size
  stamp := UInt64.le_refl _
  sent := UInt64.le_trans h.sent (UInt64.le_trans h.stamp hnow)
  last := fun _ => rfl

lemma sendPingMessage_ok (h : EntryOk clock entry) (hmode : entry.mode = .client) :
    EntryOk now (sendPingMessage now entry) where
  index := h.index
  size := h.size
  stamp := UInt64.le_refl _
  sent := UInt64.le_refl _
  last := fun hserver => nomatch hmode.symm.trans hserver

lemma increaseInterval_ok (h : EntryOk clock entry) :
    EntryOk clock (increaseInterval entry) := by
  unfold increaseInterval
  by_cases hmore : entry.currIndex + 1 < entry.intervalSize
  · rw [if_pos hmore]
    -- The size is the length of the array, so that the next index is valid too.
    rw [h.size] at hmore
    exact { h with index := hmore }
  rw [if_neg hmore]
  exact h

lemma increaseInterval_mode (entry : KeepAliveEntry) :
    (increaseInterval entry).mode = entry.mode := by
  unfold increaseInterval
  split <;> rfl

lemma afterTurn_ok {world : PassWorld} (h : EntryOk clock entry) (hnow : clock ≤ world.now) :
    EntryOk world.now (entry.afterTurn world) := by
  unfold KeepAliveEntry.afterTurn
  by_cases hdue : entry.pings world.now = true
  · have hmode : entry.mode = .client := (of_decide_eq_true hdue).1
    rw [if_pos hdue]
    have hnext := increaseInterval_ok h
    split
    · exact sendPingMessage_ok hnext (by rw [increaseInterval_mode, hmode])
    · exact hnext.later hnow
  rw [if_neg hdue]
  exact h.later hnow

lemma responseEntry_ok (now : UInt64) (sends : Bool) (endpoint : CAEndpoint)
    (inarray : List Int64) :
    let added := addKeepAliveEntry now endpoint .client inarray
    let sized := if inarray = [] then added else { added with intervalSize := inarray.length }
    EntryOk now (if sends then sendPingMessage now sized else sized) := by
  intro added sized
  have hsized : EntryOk now sized ∧ sized.mode = .client := by
    by_cases hempty : inarray = []
    · have heq : sized = added := if_pos hempty
      rw [heq]
      refine ⟨?_, rfl⟩
      show EntryOk now (addKeepAliveEntry now endpoint .client inarray)
      rw [hempty]
      exact addKeepAliveEntry_ok now endpoint .client
    have heq : sized = { added with intervalSize := inarray.length } := if_neg hempty
    have hinfo : added.intervalInfo = inarray := if_neg hempty
    rw [heq]
    refine ⟨⟨?_, ?_, UInt64.le_refl _, UInt64.le_refl _, fun _ => rfl⟩, rfl⟩
    · show 0 < added.intervalInfo.length
      rw [hinfo]
      exact length_pos_iff.mpr hempty
    · show inarray.length = added.intervalInfo.length
      rw [hinfo]
  split
  · exact sendPingMessage_ok hsized.1 hsized.2
  · exact hsized.1

/-! ## Tables along a run -/

structure TableOk (state : KeepAliveState) : Prop where
  unique : Unique KeepAliveEntry.key state.table
  entries : ∀ entry ∈ state.table, EntryOk state.clock entry

lemma updateEntry_keys (endpoint : CAEndpoint) {change : KeepAliveEntry → KeepAliveEntry}
    (hkey : ∀ entry, (change entry).key = entry.key) (table : List KeepAliveEntry) :
    (updateEntry endpoint change table).map KeepAliveEntry.key = table.map KeepAliveEntry.key := by
  induction table with
  | nil => rfl
  | cons entry table ih =>
    rw [updateEntry]
    split
    · simp [hkey]
    · rw [map_cons, map_cons, ih]

lemma mem_updateEntry (endpoint : CAEndpoint) (change : KeepAliveEntry → KeepAliveEntry)
    (hmem : entry ∈ updateEntry endpoint change table) :
    entry ∈ table ∨ ∃ old ∈ table, entry = change old := by
  induction table with
  | nil => exact .inl hmem
  | cons first table ih =>
    rw [updateEntry] at hmem
    split at hmem
    · rcases mem_cons.mp hmem with hfirst | hrest
      · exact .inr ⟨first, mem_cons_self, hfirst⟩
      · simp [hrest]
    rcases mem_cons.mp hmem with hfirst | hrest
    · simp [hfirst]
    rcases ih hrest with hold | ⟨old, hold, heq⟩
    · simp [hold]
    · exact .inr ⟨old, mem_cons_of_mem _ hold, heq⟩

variable {state : KeepAliveState}

lemma TableOk.update (h : TableOk state) (hnow : state.clock ≤ now) (endpoint : CAEndpoint)
    {change : KeepAliveEntry → KeepAliveEntry} (hkey : ∀ entry, (change entry).key = entry.key)
    (hchange : ∀ entry, EntryOk state.clock entry → EntryOk now (change entry)) :
    TableOk ⟨updateEntry endpoint change state.table, now⟩ where
  unique := by
    unfold UniqueKeys.Unique
    rw [updateEntry_keys endpoint hkey]
    exact h.unique
  entries := by
    intro entry hmem
    rcases mem_updateEntry endpoint change hmem with hold | ⟨old, hold, rfl⟩
    · exact (h.entries entry hold).later hnow
    · exact hchange old (h.entries old hold)

lemma TableOk.add (h : TableOk state) (hnow : state.clock ≤ now) {endpoint : CAEndpoint}
    (hnew : ¬ state.table.any (KeepAliveEntry.isAt endpoint) = true)
    (hkey : entry.key = endpointKey endpoint) (hentry : EntryOk now entry) :
    TableOk ⟨state.table ++ [entry], now⟩ where
  unique := by
    refine UniqueKeys.unique_middle.mpr ⟨?_, by rw [append_nil]; exact h.unique⟩
    intro other hother hsame
    rw [append_nil] at hother
    refine hnew (any_eq_true.mpr ⟨other, hother, decide_eq_true ?_⟩)
    rw [hsame, hkey]
  entries := by
    intro other hother
    rcases mem_append.mp hother with hold | hnew
    · exact (h.entries other hold).later hnow
    rw [mem_singleton.mp hnew]
    exact hentry

lemma keepAliveStep_ok {event : KeepAliveEvent} (h : TableOk state)
    (htime : TimeAscends state event) : TableOk (keepAliveStep state event).1 := by
  cases event with
  | disconnected endpoint =>
    refine ⟨h.unique.sublist eraseP_sublist, ?_⟩
    exact fun entry hmem => h.entries entry (mem_of_mem_eraseP hmem)
  | pingRequest now endpoint interval =>
    show TableOk ⟨handleKeepAlivePOSTRequest now endpoint interval state.table, now⟩
    unfold handleKeepAlivePOSTRequest
    by_cases hknown : state.table.any (KeepAliveEntry.isAt endpoint) = true
    · rw [if_pos hknown]
      exact h.update htime endpoint (fun _ => rfl)
        (fun entry hok => receivePing_ok hok htime interval)
    rw [if_neg hknown]
    exact h.add htime hknown rfl
      (receivePing_ok (addKeepAliveEntry_ok now endpoint .server) (UInt64.le_refl _) interval)
  | pingResponse now sends endpoint response =>
    show TableOk ⟨handleKeepAliveResponse now sends endpoint response state.table, now⟩
    unfold handleKeepAliveResponse
    by_cases hknown : state.table.any (KeepAliveEntry.isAt endpoint) = true
    · rw [if_pos hknown]
      refine h.update htime endpoint (fun _ => rfl) (fun entry hok => ?_)
      exact { hok.later htime with }
    rw [if_neg hknown]
    by_cases hfound : response.ok = true
    · rw [if_pos hfound]
      refine h.add htime hknown ?_ (responseEntry_ok now sends endpoint response.inarray)
      split <;> split <;> rfl
    rw [if_neg hfound]
    exact ⟨h.unique, fun entry hmem => (h.entries entry hmem).later htime⟩
  | process world =>
    show TableOk ⟨(processKeepAlive world state.table).table, world.now⟩
    rw [processKeepAlive_eq world h.unique]
    constructor
    · refine List.Nodup.sublist (SkippingSweep.walk_left_keys _ ?_ state.table) h.unique
      intro entry entry' hturn
      obtain ⟨-, hsome⟩ := Option.ite_none_left_eq_some.mp hturn
      rw [← Option.some.inj hsome, afterTurn_key]
    · intro entry hmem
      rcases SkippingSweep.walk_left_mem _ state.table hmem with hold | ⟨old, hold, hturn⟩
      · exact (h.entries entry hold).later htime
      obtain ⟨-, hsome⟩ := Option.ite_none_left_eq_some.mp hturn
      rw [← Option.some.inj hsome]
      exact afterTurn_ok (h.entries old hold) htime

lemma stepExact_iff {event : KeepAliveEvent} (h : TableOk state)
    (htime : TimeAscends state event) : StepExact state event ↔ PassClean state event := by
  have hnext := keepAliveStep_ok h htime
  have hpass : StepExact state event ↔ ∀ world, event = .process world →
      PassExact world state.table :=
    ⟨fun hexact => hexact.pass,
      fun hexact => ⟨hnext.unique, fun entry hmem => (hnext.entries entry hmem).index, hexact⟩⟩
  rw [hpass]
  cases event with
  | disconnected | pingRequest | pingResponse => exact iff_of_true nofun trivial
  | process world =>
    rw [← passExact_iff h.unique h.entries htime]
    exact ⟨fun hall => hall world rfl, fun hexact _ heq => by cases heq; exact hexact⟩

/-- **The table is exact along a run** exactly when every pass of it is clean. -/
theorem keepAlive_iff (events : List KeepAliveEvent)
    (htime : Runs.Along keepAliveStep TimeAscends ⟨[], 0⟩ events) :
    Runs.Along keepAliveStep StepExact ⟨[], 0⟩ events
      ↔ Runs.Along keepAliveStep PassClean ⟨[], 0⟩ events := by
  have hstart : TableOk ⟨[], 0⟩ := ⟨UniqueKeys.unique_nil, fun _ hmem => nomatch hmem⟩
  exact Runs.along_iff TableOk
    (fun state event hok hfair => ⟨stepExact_iff hok hfair, fun _ => keepAliveStep_ok hok hfair⟩)
    hstart htime

def afterMinute : PassWorld := ⟨60000000, fun _ => true, KeepAliveEntry.remoteAddr⟩

def twoSilentClients : List KeepAliveEvent :=
  [.pingRequest 0 ⟨0, Coap.addrOne, 1⟩ 1, .pingRequest 0 ⟨0, Coap.addrTwo, 1⟩ 1,
    .process afterMinute]

theorem twoSilentClients_skips :
    Runs.Along keepAliveStep TimeAscends ⟨[], 0⟩ twoSilentClients
      ∧ ¬ Runs.Along keepAliveStep StepExact ⟨[], 0⟩ twoSilentClients := by
  refine ⟨by exact ⟨UInt64.le_refl _, UInt64.le_refl _,
    (by decide : (0 : UInt64) ≤ 60000000), trivial⟩, ?_⟩
  rintro ⟨-, -, hexact, -⟩
  have hall := congrArg List.length (hexact.pass afterMinute rfl).examines
  exact absurd hall (by decide)

theorem silentClient_disconnected :
    Runs.Along keepAliveStep StepExact ⟨[], 0⟩
      [.pingRequest 0 ⟨0, Coap.addrOne, 1⟩ 1, .process afterMinute] :=
  (keepAlive_iff _ (by exact ⟨UInt64.le_refl _, (by decide : (0 : UInt64) ≤ 60000000),
    trivial⟩)).mpr (by
    refine ⟨trivial, ⟨?_, nofun, fun _ _ _ => rfl⟩, trivial⟩
    intro entry hmem
    obtain rfl := mem_singleton.mp hmem
    exact iff_of_true (by decide) (by decide +kernel))

end Iochibity.Ocf.KeepAlive
