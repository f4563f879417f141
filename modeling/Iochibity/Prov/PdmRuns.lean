/-
The provisioning database, `provisioningdatabasemanager.c`: a table of devices and a table of links
between their row ids.
-/
import Iochibity.Sec.UuidText
import Iochibity.Lib.TextSearch
import Iochibity.Lib.Runs

namespace Iochibity.Prov

open Sec (OicUuid)
open List

inductive PdmDeviceState
  | active
  | stale
  | init
  | unknown
  deriving DecidableEq

structure DeviceRow where
  id : ℤ
  uuid : OicUuid
  state : PdmDeviceState
  deriving DecidableEq

structure LinkRow where
  id : ℤ
  id2 : ℤ
  state : PdmDeviceState
  deriving DecidableEq

/-- The tables, and the largest id that `AUTOINCREMENT` has given. -/
structure Pdm where
  devices : List DeviceRow
  links : List LinkRow
  sequence : ℤ
  deriving DecidableEq

def Pdm.empty : Pdm := ⟨[], [], 0⟩

def sqlite3ColumnInt (value : ℤ) : ℤ := Int.bmod value (2 ^ 32)

inductive PdmResult
  | ok
  | invalidParam
  | error
  | duplicateUuid
  deriving DecidableEq

section Statements

variable (like : OicUuid → OicUuid → Bool)

section

variable (db : Pdm)

variable (uuid : OicUuid)

def getIdForUUID : Option ℤ :=
  (db.devices.find? (like uuid ·.uuid)).map (sqlite3ColumnInt ·.id)

def pdmGetDeviceState : PdmDeviceState :=
  ((db.devices.filter (like uuid ·.uuid)).getLast?.map DeviceRow.state).getD .unknown

def getUUIDforId (id : ℤ) : Option OicUuid :=
  (db.devices.find? (·.id = id)).map DeviceRow.uuid

def ascendingOrder (id1 id2 : ℤ) : ℤ × ℤ := if id1 > id2 then (id2, id1) else (id1, id2)

def ascendingIds (uuid1 uuid2 : OicUuid) : Option (ℤ × ℤ) :=
  (getIdForUUID like db uuid1).bind fun id1 =>
    (getIdForUUID like db uuid2).map fun id2 => ascendingOrder id1 id2

def LinkRow.isPair (link : LinkRow) (id1 id2 : ℤ) : Prop := link.id = id1 ∧ link.id2 = id2

instance (link : LinkRow) (id1 id2 : ℤ) : Decidable (link.isPair id1 id2) :=
  inferInstanceAs (Decidable (_ ∧ _))

def addlink (id1 id2 : ℤ) : PdmResult × Pdm :=
  if ∃ link ∈ db.links, link.isPair id1 id2 then (.error, db)
  else (.ok, { db with links := db.links ++ [⟨id1, id2, .active⟩] })

def removeLink (id1 id2 : ℤ) : PdmResult × Pdm :=
  (.ok, { db with links := db.links.filter (¬ ·.isPair id1 id2) })

def removeFromDeviceList (id : ℤ) : PdmResult × Pdm :=
  (.ok, { db with devices := db.devices.filter (·.id ≠ id) })

def updateLinkState (id1 id2 : ℤ) (state : PdmDeviceState) : PdmResult × Pdm :=
  (.ok, { db with links := db.links.map (fun link =>
    if link.isPair id1 id2 then { link with state := state } else link) })

def updateDeviceState (state : PdmDeviceState) : PdmResult × Pdm :=
  (.ok, { db with devices := db.devices.map (fun row =>
    if like uuid row.uuid then { row with state := state } else row) })

def updateLinkForStaleDevice (devUuid : OicUuid) : PdmResult × Pdm :=
  match getIdForUUID like db devUuid with
  | none => (.invalidParam, db)
  | some id =>
    (.ok, { db with links := db.links.map (fun link =>
      if link.id = id ∨ link.id2 = id then { link with state := .stale } else link) })

/-! ## Calls -/

def pdmAddDevice : PdmResult × Pdm :=
  if ∃ row ∈ db.devices, row.uuid = uuid then (.duplicateUuid, db)
  else
    (.ok, { db with
      devices := db.devices ++ [⟨db.sequence + 1, uuid, .init⟩]
      sequence := db.sequence + 1 })

def pdmLinkDevices (uuid1 uuid2 : OicUuid) : PdmResult × Pdm :=
  if pdmGetDeviceState like db uuid1 ≠ .active then (.invalidParam, db)
  else if pdmGetDeviceState like db uuid2 ≠ .active then (.invalidParam, db)
  else
    match ascendingIds like db uuid1 uuid2 with
    | none => (.invalidParam, db)
    | some (id1, id2) => addlink db id1 id2

def pdmUnlinkDevices (uuid1 uuid2 : OicUuid) : PdmResult × Pdm :=
  match ascendingIds like db uuid1 uuid2 with
  | none => (.invalidParam, db)
  | some (id1, id2) => removeLink db id1 id2

def pdmDeleteDevice : PdmResult × Pdm :=
  match getIdForUUID like db uuid with
  | none => (.invalidParam, db)
  | some id => removeFromDeviceList db id

def pdmSetLinkStale (uuidOfDevice1 uuidOfDevice2 : OicUuid) : PdmResult × Pdm :=
  match ascendingIds like db uuidOfDevice1 uuidOfDevice2 with
  | none => (.invalidParam, db)
  | some (id1, id2) => updateLinkState db id1 id2 .stale

def pdmSetDeviceState (state : PdmDeviceState) : PdmResult × Pdm :=
  if state = .stale then
    match updateLinkForStaleDevice like db uuid with
    | (.ok, db') => updateDeviceState like db' uuid state
    -- the transaction is rolled back
    | (res, _) => (res, db)
  else updateDeviceState like db uuid state

def pdmIsLinkExists (uuidOfDevice1 uuidOfDevice2 : OicUuid) : PdmResult × Bool :=
  match ascendingIds like db uuidOfDevice1 uuidOfDevice2 with
  | none => (.invalidParam, false)
  | some (id1, id2) =>
    if pdmGetDeviceState like db uuidOfDevice1 ≠ .active then (.invalidParam, false)
    else if pdmGetDeviceState like db uuidOfDevice2 ≠ .active then (.invalidParam, false)
    else (.ok, decide (∃ link ∈ db.links, link.isPair id1 id2 ∧ link.state = .active))

/-- What `PDMGetLinkedDevices` takes from a row: the other device, where there is one. -/
def linkedUuid (id : ℤ) (link : LinkRow) : OicUuid :=
  let first := if sqlite3ColumnInt link.id ≠ id then
      (getUUIDforId db (sqlite3ColumnInt link.id)).getD .nil else .nil
  if sqlite3ColumnInt link.id2 ≠ id then
    (getUUIDforId db (sqlite3ColumnInt link.id2)).getD first else first

/-- `PDMGetLinkedDevices`; the list is built from its end. -/
def pdmGetLinkedDevices : PdmResult × List OicUuid :=
  if pdmGetDeviceState like db uuid ≠ .active then (.invalidParam, [])
  else
    match getIdForUUID like db uuid with
    | none => (.invalidParam, [])
    | some id =>
      (.ok, ((db.links.filter (fun link => (link.id = id ∨ link.id2 = id)
        ∧ link.state = .active)).map (linkedUuid db id)).reverse)

inductive PdmCall
  | addDevice (uuid : OicUuid)
  | setDeviceState (uuid : OicUuid) (state : PdmDeviceState)
  | deleteDevice (uuid : OicUuid)
  | linkDevices (uuid1 uuid2 : OicUuid)
  | unlinkDevices (uuid1 uuid2 : OicUuid)
  | setLinkStale (uuid1 uuid2 : OicUuid)
  | getDeviceState (uuid : OicUuid)
  | isLinkExists (uuid1 uuid2 : OicUuid)
  | getLinkedDevices (uuid : OicUuid)
  deriving DecidableEq

inductive PdmAnswer
  | result (result : PdmResult)
  | state (state : PdmDeviceState)
  | linkExists (result : PdmResult) (linked : Bool)
  | linkedDevices (result : PdmResult) (devices : List OicUuid)
  deriving DecidableEq

def pdmCall : PdmCall → PdmAnswer × Pdm
  | .addDevice uuid => ((pdmAddDevice db uuid).map .result id)
  | .setDeviceState uuid state => ((pdmSetDeviceState like db uuid state).map .result id)
  | .deleteDevice uuid => ((pdmDeleteDevice like db uuid).map .result id)
  | .linkDevices uuid1 uuid2 => ((pdmLinkDevices like db uuid1 uuid2).map .result id)
  | .unlinkDevices uuid1 uuid2 => ((pdmUnlinkDevices like db uuid1 uuid2).map .result id)
  | .setLinkStale uuid1 uuid2 => ((pdmSetLinkStale like db uuid1 uuid2).map .result id)
  | .getDeviceState uuid => (.state (pdmGetDeviceState like db uuid), db)
  | .isLinkExists uuid1 uuid2 =>
    (.linkExists (pdmIsLinkExists like db uuid1 uuid2).1
      (pdmIsLinkExists like db uuid1 uuid2).2, db)
  | .getLinkedDevices uuid =>
    (.linkedDevices (pdmGetLinkedDevices like db uuid).1 (pdmGetLinkedDevices like db uuid).2, db)

def pdmStep (call : PdmCall) : Pdm × List PdmAnswer :=
  ((pdmCall like db call).2, [(pdmCall like db call).1])

end

end Statements

/-! ## What is promised -/

@[ext]
structure Relations where
  device : OicUuid → PdmDeviceState → Prop
  link : OicUuid → OicUuid → PdmDeviceState → Prop

namespace Relations

variable (r : Relations) (u v : OicUuid)

def Has : Prop := ∃ state, r.device u state

def SamePair (a b u v : OicUuid) : Prop := a = u ∧ b = v ∨ a = v ∧ b = u

def insert : Relations where
  device a state := a = u ∧ state = .init ∨ r.device a state
  link := r.link

def setState (new : PdmDeviceState) : Relations where
  device a state := a = u ∧ state = new ∨ a ≠ u ∧ r.device a state
  link := r.link

def staleLinks : Relations where
  device := r.device
  link a b state :=
    (a = u ∨ b = u) ∧ state = .stale ∧ (∃ old, r.link a b old)
      ∨ ¬ (a = u ∨ b = u) ∧ r.link a b state

def forget : Relations where
  device a state := a ≠ u ∧ r.device a state
  link a b state := a ≠ u ∧ b ≠ u ∧ r.link a b state

def connect : Relations where
  device := r.device
  link a b state := SamePair a b u v ∧ state = .active ∨ r.link a b state

def disconnect : Relations where
  device := r.device
  link a b state := ¬ SamePair a b u v ∧ r.link a b state

def staleLink : Relations where
  device := r.device
  link a b state :=
    SamePair a b u v ∧ state = .stale ∧ (∃ old, r.link a b old)
      ∨ ¬ SamePair a b u v ∧ r.link a b state

end Relations

def Does (can : Prop) (r new : Relations) (answer : PdmResult) (r' : Relations) : Prop :=
  (can → answer = .ok ∧ r' = new) ∧ (¬ can → answer ≠ .ok ∧ r' = r)

def Meets (r : Relations) : PdmCall → PdmAnswer → Relations → Prop
  | .addDevice u, .result answer, r' => Does (¬ r.Has u) r (r.insert u) answer r'
  | .setDeviceState u state, .result answer, r' =>
    Does (r.Has u) r
      (if state = .stale then (r.staleLinks u).setState u state else r.setState u state) answer r'
  | .deleteDevice u, .result answer, r' => Does (r.Has u) r (r.forget u) answer r'
  | .linkDevices u v, .result answer, r' =>
    Does (u ≠ v ∧ r.device u .active ∧ r.device v .active ∧ ¬ ∃ state, r.link u v state) r
      (r.connect u v) answer r'
  | .unlinkDevices u v, .result answer, r' =>
    Does (r.Has u ∧ r.Has v) r (r.disconnect u v) answer r'
  | .setLinkStale u v, .result answer, r' =>
    Does (r.Has u ∧ r.Has v) r (r.staleLink u v) answer r'
  | .getDeviceState u, .state state, r' =>
    (r.Has u → r.device u state) ∧ (¬ r.Has u → state = .unknown) ∧ r' = r
  | .isLinkExists u v, .linkExists answer linked, r' =>
    Does (r.device u .active ∧ r.device v .active) r r answer r'
      ∧ (answer = .ok → (linked = true ↔ r.link u v .active))
  | .getLinkedDevices u, .linkedDevices answer devices, r' =>
    Does (r.device u .active) r r answer r'
      ∧ (answer = .ok → devices.Nodup ∧ ∀ v, v ∈ devices ↔ r.link u v .active)
  | _, _, _ => False

/-! ## What the tables say -/

def LinkRow.Joins (link : LinkRow) (id1 id2 : ℤ) : Prop :=
  link.isPair id1 id2 ∨ link.isPair id2 id1

def relationsOf (db : Pdm) : Relations where
  device u state := ∃ row ∈ db.devices, row.uuid = u ∧ row.state = state
  link u v state := ∃ row ∈ db.devices, ∃ row2 ∈ db.devices, ∃ link ∈ db.links,
    row.uuid = u ∧ row2.uuid = v ∧ link.Joins row.id row2.id ∧ link.state = state

def Joined (db : Pdm) : Prop :=
  ∀ link ∈ db.links, link.id ≠ link.id2 ∧ (∃ row ∈ db.devices, row.id = link.id)
    ∧ ∃ row ∈ db.devices, row.id = link.id2

section Runs

variable (like : OicUuid → OicUuid → Bool)

def CallExact (db : Pdm) (call : PdmCall) : Prop :=
  Meets (relationsOf db) call (pdmCall like db call).1 (relationsOf (pdmCall like db call).2)
    ∧ Joined (pdmCall like db call).2

def PdmCall.lookups : PdmCall → List OicUuid
  | .addDevice _ => []
  | .setDeviceState u _ => [u]
  | .deleteDevice u => [u]
  | .linkDevices u v => [u, v]
  | .unlinkDevices u v => [u, v]
  | .setLinkStale u v => [u, v]
  | .getDeviceState u => [u]
  | .isLinkExists u v => [u, v]
  | .getLinkedDevices u => [u]

def FindsIt (db : Pdm) (u : OicUuid) : Prop :=
  ∀ row ∈ db.devices, like u row.uuid = true ↔ row.uuid = u

/-- What a call asks of the tables: no id from 2^31 on, no state for a missing device, no links of a
device that is deleted, no link of a device with itself. -/
def Allowed (db : Pdm) : PdmCall → Prop
  | .addDevice _ => db.sequence + 1 < 2 ^ 31
  | .setDeviceState u state => state = .stale ∨ ∃ row ∈ db.devices, row.uuid = u
  | .deleteDevice u => ∀ row ∈ db.devices, row.uuid = u →
      ∀ link ∈ db.links, link.id ≠ row.id ∧ link.id2 ≠ row.id
  | .linkDevices u v => u = v → ∀ row ∈ db.devices, row.uuid = u → row.state ≠ .active
  | _ => True

def CallClean (db : Pdm) (call : PdmCall) : Prop :=
  (∀ u ∈ call.lookups, FindsIt like db u) ∧ Allowed db call

instance (db : Pdm) (u : OicUuid) : Decidable (FindsIt like db u) :=
  inferInstanceAs (Decidable (∀ row ∈ db.devices, like u row.uuid = true ↔ row.uuid = u))

instance (db : Pdm) : (call : PdmCall) → Decidable (Allowed db call)
  | .addDevice _ => inferInstanceAs (Decidable (db.sequence + 1 < 2 ^ 31))
  | .setDeviceState u state =>
    inferInstanceAs (Decidable (state = .stale ∨ ∃ row ∈ db.devices, row.uuid = u))
  | .deleteDevice u => inferInstanceAs (Decidable (∀ row ∈ db.devices, row.uuid = u →
      ∀ link ∈ db.links, link.id ≠ row.id ∧ link.id2 ≠ row.id))
  | .linkDevices u v => inferInstanceAs (Decidable (u = v →
      ∀ row ∈ db.devices, row.uuid = u → row.state ≠ .active))
  | .unlinkDevices _ _ => isTrue trivial
  | .setLinkStale _ _ => isTrue trivial
  | .getDeviceState _ => isTrue trivial
  | .isLinkExists _ _ => isTrue trivial
  | .getLinkedDevices _ => isTrue trivial

instance (db : Pdm) (call : PdmCall) : Decidable (CallClean like db call) :=
  inferInstanceAs (Decidable ((∀ u ∈ call.lookups, FindsIt like db u) ∧ Allowed db call))

/-- What the tables keep: their keys, ids that fit an `int`, and links in ascending order. -/
structure Sound (db : Pdm) : Prop where
  uuids : (db.devices.map DeviceRow.uuid).Nodup
  ids : (db.devices.map DeviceRow.id).Nodup
  positive : ∀ row ∈ db.devices, 0 < row.id ∧ row.id ≤ db.sequence
  small : 0 ≤ db.sequence ∧ db.sequence < 2 ^ 31
  pairs : (db.links.map (fun link => (link.id, link.id2))).Nodup
  ascending : ∀ link ∈ db.links, link.id < link.id2
  joined : Joined db

variable {like}

lemma sound_empty : Sound Pdm.empty where
  uuids := nodup_nil
  ids := nodup_nil
  positive := fun row hrow => absurd hrow not_mem_nil
  small := by decide
  pairs := nodup_nil
  ascending := fun link hlink => absurd hlink not_mem_nil
  joined := fun link hlink => absurd hlink not_mem_nil

section Lookup

variable {db : Pdm}

variable {row row' : DeviceRow}

section

variable (h : Sound db) (hrow : row ∈ db.devices)
include h hrow

lemma Sound.row_of_uuid (hrow' : row' ∈ db.devices) (huuid : row.uuid = row'.uuid) : row = row' :=
  inj_on_of_nodup_map h.uuids hrow hrow' huuid

lemma Sound.row_of_id (hrow' : row' ∈ db.devices) (hid : row.id = row'.id) : row = row' :=
  inj_on_of_nodup_map h.ids hrow hrow' hid

lemma Sound.columnInt : sqlite3ColumnInt row.id = row.id := by
  obtain ⟨hpos, hle⟩ := h.positive row hrow
  have hsmall := h.small.2
  exact Int.bmod_eq_of_le (by omega) (by omega)

end

lemma lookup_cases (h : Sound db) {u : OicUuid} (hfinds : FindsIt like db u) :
    (∃ row ∈ db.devices, row.uuid = u ∧ getIdForUUID like db u = some row.id
        ∧ pdmGetDeviceState like db u = row.state)
      ∨ (∀ row ∈ db.devices, row.uuid ≠ u) ∧ getIdForUUID like db u = none
        ∧ pdmGetDeviceState like db u = .unknown := by
  by_cases hthere : ∃ row ∈ db.devices, row.uuid = u
  · obtain ⟨row, hrow, huuid⟩ := hthere
    have hsame : ∀ found ∈ db.devices, like u found.uuid = true → found = row :=
      fun found hfound hlike =>
        h.row_of_uuid hfound hrow (((hfinds found hfound).mp hlike).trans huuid.symm)
    have hlike : like u row.uuid = true := (hfinds row hrow).mpr huuid
    refine .inl ⟨row, hrow, huuid, ?_, ?_⟩
    · cases hfind : db.devices.find? (like u ·.uuid) with
      | none => exact absurd hlike (find?_eq_none.mp hfind row hrow)
      | some found =>
        have hfoundLike : like u found.uuid = true :=
          find?_some (p := fun row : DeviceRow => like u row.uuid) hfind
        have hfound := hsame found (mem_of_find?_eq_some hfind) hfoundLike
        rw [getIdForUUID, hfind, Option.map_some, hfound, h.columnInt hrow]
    · have hmem : row ∈ db.devices.filter (like u ·.uuid) :=
        mem_filter.mpr ⟨hrow, hlike⟩
      cases hlast : (db.devices.filter (like u ·.uuid)).getLast? with
      | none =>
        rw [getLast?_eq_none_iff.mp hlast] at hmem
        simp at hmem
      | some found =>
        obtain ⟨hfound, hfoundLike⟩ := mem_filter.mp (mem_of_getLast? hlast)
        rw [pdmGetDeviceState, hlast, Option.map_some, Option.getD_some,
          hsame found hfound hfoundLike]
  have hnone : ∀ row ∈ db.devices, row.uuid ≠ u :=
    fun row hrow huuid => hthere ⟨row, hrow, huuid⟩
  have hunlike : ∀ row ∈ db.devices, ¬ like u row.uuid = true :=
    fun row hrow hlike => hnone row hrow ((hfinds row hrow).mp hlike)
  refine .inr ⟨hnone, ?_, ?_⟩
  · rw [getIdForUUID, find?_eq_none.mpr hunlike, Option.map_none]
  · rw [pdmGetDeviceState, filter_eq_nil_iff.mpr hunlike]
    rfl

lemma device_iff (h : Sound db) (hrow : row ∈ db.devices)
    (state : PdmDeviceState) : (relationsOf db).device row.uuid state ↔ row.state = state := by
  constructor
  · rintro ⟨row', hrow', huuid, hstate⟩
    rw [← h.row_of_uuid hrow' hrow huuid]
    exact hstate
  · exact fun hstate => ⟨row, hrow, rfl, hstate⟩

lemma link_iff (h : Sound db) {row2 : DeviceRow} (hrow : row ∈ db.devices)
    (hrow2 : row2 ∈ db.devices) (state : PdmDeviceState) :
    (relationsOf db).link row.uuid row2.uuid state
      ↔ ∃ link ∈ db.links, link.Joins row.id row2.id ∧ link.state = state := by
  constructor
  · rintro ⟨row', hrow', row2', hrow2', link, hlink, huuid, huuid2, hjoins, hstate⟩
    rw [h.row_of_uuid hrow' hrow huuid, h.row_of_uuid hrow2' hrow2 huuid2] at hjoins
    exact ⟨link, hlink, hjoins, hstate⟩
  · exact fun ⟨link, hlink, hjoins, hstate⟩ =>
      ⟨row, hrow, row2, hrow2, link, hlink, rfl, rfl, hjoins, hstate⟩

lemma has_iff (u : OicUuid) : (relationsOf db).Has u ↔ ∃ row ∈ db.devices, row.uuid = u := by
  constructor
  · rintro ⟨state, row, hrow, huuid, -⟩
    exact ⟨row, hrow, huuid⟩
  · exact fun ⟨row, hrow, huuid⟩ => ⟨row.state, row, hrow, huuid, rfl⟩

lemma Sound.id_iff_uuid (h : Sound db) (hrow : row ∈ db.devices)
    (hrow' : row' ∈ db.devices) : row.id = row'.id ↔ row.uuid = row'.uuid :=
  ⟨fun hid => congrArg DeviceRow.uuid (h.row_of_id hrow hrow' hid),
    fun huuid => congrArg DeviceRow.id (h.row_of_uuid hrow hrow' huuid)⟩

lemma Sound.touches_iff (h : Sound db) {row2 : DeviceRow} (hrow : row ∈ db.devices)
    (hrow2 : row2 ∈ db.devices) (hrow' : row' ∈ db.devices) {link : LinkRow}
    (hjoins : link.Joins row.id row2.id) :
    link.id = row'.id ∨ link.id2 = row'.id ↔ row.uuid = row'.uuid ∨ row2.uuid = row'.uuid := by
  rw [← h.id_iff_uuid hrow hrow', ← h.id_iff_uuid hrow2 hrow']
  obtain ⟨hid, hid2⟩ | ⟨hid, hid2⟩ := hjoins
  · rw [hid, hid2]
  rw [hid, hid2]
  exact Or.comm

lemma isPair_ascendingOrder {link : LinkRow} (hlt : link.id < link.id2) (id1 id2 : ℤ) :
    link.isPair (ascendingOrder id1 id2).1 (ascendingOrder id1 id2).2 ↔ link.Joins id1 id2 := by
  unfold ascendingOrder LinkRow.Joins LinkRow.isPair
  split_ifs with h
  · constructor
    · exact fun hpair => .inr hpair
    · rintro (⟨h1, h2⟩ | hpair)
      · omega
      · exact hpair
  · constructor
    · exact fun hpair => .inl hpair
    · rintro (hpair | ⟨h1, h2⟩)
      · exact hpair
      · omega

end Lookup

/-! ## Changes of states -/

section States

variable {db : Pdm} {newRow : DeviceRow → DeviceRow} {newLink : LinkRow → LinkRow}

def Pdm.withStates (db : Pdm) (newRow : DeviceRow → DeviceRow) (newLink : LinkRow → LinkRow) :
    Pdm :=
  { db with devices := db.devices.map newRow, links := db.links.map newLink }

structure OnlyStates (newRow : DeviceRow → DeviceRow) (newLink : LinkRow → LinkRow) : Prop where
  rowId : ∀ row, (newRow row).id = row.id
  rowUuid : ∀ row, (newRow row).uuid = row.uuid
  linkId : ∀ link, (newLink link).id = link.id
  linkId2 : ∀ link, (newLink link).id2 = link.id2

lemma OnlyStates.joins (hsame : OnlyStates newRow newLink) (link : LinkRow) (id1 id2 : ℤ) :
    (newLink link).Joins id1 id2 ↔ link.Joins id1 id2 := by
  unfold LinkRow.Joins LinkRow.isPair
  rw [hsame.linkId, hsame.linkId2]

lemma sound_withStates (h : Sound db) (hsame : OnlyStates newRow newLink) :
    Sound (db.withStates newRow newLink) where
  uuids := by
    have huuids : (db.withStates newRow newLink).devices.map DeviceRow.uuid
        = db.devices.map DeviceRow.uuid := by
      rw [Pdm.withStates, map_map]
      exact map_congr_left (fun row _ => hsame.rowUuid row)
    rw [huuids]
    exact h.uuids
  ids := by
    have hids : (db.withStates newRow newLink).devices.map DeviceRow.id
        = db.devices.map DeviceRow.id := by
      rw [Pdm.withStates, map_map]
      exact map_congr_left (fun row _ => hsame.rowId row)
    rw [hids]
    exact h.ids
  positive := by
    intro row hrow
    obtain ⟨old, hold, rfl⟩ := mem_map.mp hrow
    rw [hsame.rowId]
    exact h.positive old hold
  small := h.small
  pairs := by
    have hpairs : (db.withStates newRow newLink).links.map (fun link => (link.id, link.id2))
        = db.links.map (fun link => (link.id, link.id2)) := by
      rw [Pdm.withStates, map_map]
      refine map_congr_left (fun link _ => ?_)
      rw [Function.comp_apply, hsame.linkId, hsame.linkId2]
    rw [hpairs]
    exact h.pairs
  ascending := by
    intro link hlink
    obtain ⟨old, hold, rfl⟩ := mem_map.mp hlink
    rw [hsame.linkId, hsame.linkId2]
    exact h.ascending old hold
  joined := by
    have hrow : ∀ id, (∃ row ∈ db.devices, row.id = id) →
        ∃ row ∈ (db.withStates newRow newLink).devices, row.id = id := by
      rintro id ⟨row, hrow, hid⟩
      exact ⟨newRow row, mem_map_of_mem hrow, (hsame.rowId row).trans hid⟩
    intro link hlink
    obtain ⟨old, hold, rfl⟩ := mem_map.mp hlink
    obtain ⟨hne, hfirst, hsecond⟩ := h.joined old hold
    rw [hsame.linkId, hsame.linkId2]
    exact ⟨hne, hrow _ hfirst, hrow _ hsecond⟩

lemma device_withStates (hsame : OnlyStates newRow newLink) (u : OicUuid) (state : PdmDeviceState) :
    (relationsOf (db.withStates newRow newLink)).device u state
      ↔ ∃ row ∈ db.devices, row.uuid = u ∧ (newRow row).state = state := by
  constructor
  · rintro ⟨row, hrow, huuid, hstate⟩
    obtain ⟨old, hold, rfl⟩ := mem_map.mp hrow
    rw [hsame.rowUuid] at huuid
    exact ⟨old, hold, huuid, hstate⟩
  · rintro ⟨row, hrow, huuid, hstate⟩
    exact ⟨newRow row, mem_map_of_mem hrow, (hsame.rowUuid row).trans huuid, hstate⟩

lemma link_withStates (hsame : OnlyStates newRow newLink) (u v : OicUuid) (state : PdmDeviceState) :
    (relationsOf (db.withStates newRow newLink)).link u v state
      ↔ ∃ row ∈ db.devices, ∃ row2 ∈ db.devices, ∃ link ∈ db.links,
        row.uuid = u ∧ row2.uuid = v ∧ link.Joins row.id row2.id
          ∧ (newLink link).state = state := by
  constructor
  · rintro ⟨row, hrow, row2, hrow2, link, hlink, huuid, huuid2, hjoins, hstate⟩
    obtain ⟨old, hold, rfl⟩ := mem_map.mp hrow
    obtain ⟨old2, hold2, rfl⟩ := mem_map.mp hrow2
    obtain ⟨oldLink, holdLink, rfl⟩ := mem_map.mp hlink
    rw [hsame.rowUuid] at huuid huuid2
    rw [hsame.joins, hsame.rowId, hsame.rowId] at hjoins
    exact ⟨old, hold, old2, hold2, oldLink, holdLink, huuid, huuid2, hjoins, hstate⟩
  · rintro ⟨row, hrow, row2, hrow2, link, hlink, huuid, huuid2, hjoins, hstate⟩
    refine ⟨newRow row, mem_map_of_mem hrow, newRow row2, mem_map_of_mem hrow2,
      newLink link, mem_map_of_mem hlink, (hsame.rowUuid row).trans huuid,
      (hsame.rowUuid row2).trans huuid2, ?_, hstate⟩
    rw [hsame.joins, hsame.rowId, hsame.rowId]
    exact hjoins

end States

end Runs

section Runs

variable {like : OicUuid → OicUuid → Bool}

/-! ## The calls -/

section Calls

variable {db : Pdm}

lemma addDevice_exact (h : Sound db) (u : OicUuid) (hsmall : db.sequence + 1 < 2 ^ 31) :
    Does (¬ (relationsOf db).Has u) (relationsOf db) ((relationsOf db).insert u)
        (pdmAddDevice db u).1 (relationsOf (pdmAddDevice db u).2)
      ∧ Sound (pdmAddDevice db u).2 := by
  rw [pdmAddDevice, has_iff]
  by_cases hthere : ∃ row ∈ db.devices, row.uuid = u
  · rw [if_pos hthere]
    exact ⟨⟨fun hno => absurd hthere hno, fun _ => ⟨fun hok => PdmResult.noConfusion hok, rfl⟩⟩, h⟩
  rw [if_neg hthere]
  have hold : ∀ link ∈ db.links, link.id ≠ db.sequence + 1 ∧ link.id2 ≠ db.sequence + 1 := by
    intro link hlink
    obtain ⟨-, ⟨row, hrow, hid⟩, row2, hrow2, hid2⟩ := h.joined link hlink
    have hle := (h.positive row hrow).2
    have hle2 := (h.positive row2 hrow2).2
    omega
  refine ⟨⟨fun _ => ⟨rfl, ?_⟩, fun hyes => absurd hthere hyes⟩, ?_⟩
  · apply Relations.ext
    · funext a state
      apply propext
      constructor
      · rintro ⟨row, hrow, huuid, hstate⟩
        obtain hrow | hrow := mem_append.mp hrow
        · exact .inr ⟨row, hrow, huuid, hstate⟩
        rw [mem_singleton.mp hrow] at huuid hstate
        exact .inl ⟨huuid.symm, hstate.symm⟩
      · rintro (⟨rfl, rfl⟩ | ⟨row, hrow, huuid, hstate⟩)
        · exact ⟨_, mem_append_right _ (mem_singleton_self _), rfl, rfl⟩
        · exact ⟨row, mem_append_left _ hrow, huuid, hstate⟩
    · funext a b state
      apply propext
      constructor
      · rintro ⟨row, hrow, row2, hrow2, link, hlink, huuid, huuid2, hjoins, hstate⟩
        obtain ⟨hne, hne2⟩ := hold link hlink
        obtain hrow | hrow := mem_append.mp hrow
        · obtain hrow2 | hrow2 := mem_append.mp hrow2
          · exact ⟨row, hrow, row2, hrow2, link, hlink, huuid, huuid2, hjoins, hstate⟩
          rw [mem_singleton.mp hrow2] at hjoins
          obtain ⟨-, hid⟩ | ⟨hid, -⟩ := hjoins
          · exact absurd hid hne2
          · exact absurd hid hne
        rw [mem_singleton.mp hrow] at hjoins
        obtain ⟨hid, -⟩ | ⟨-, hid⟩ := hjoins
        · exact absurd hid hne
        · exact absurd hid hne2
      · rintro ⟨row, hrow, row2, hrow2, link, hlink, hrest⟩
        exact ⟨row, mem_append_left _ hrow, row2, mem_append_left _ hrow2, link, hlink, hrest⟩
  · have hrows : ∀ id, (∃ row ∈ db.devices, row.id = id) →
        ∃ row ∈ db.devices ++ [⟨db.sequence + 1, u, .init⟩], row.id = id :=
      fun id ⟨row, hrow, hid⟩ => ⟨row, mem_append_left _ hrow, hid⟩
    constructor
    · rw [map_append, map_singleton, ← concat_eq_append, nodup_concat]
      refine ⟨fun hmem => hthere ?_, h.uuids⟩
      exact mem_map.mp hmem
    · rw [map_append, map_singleton, ← concat_eq_append, nodup_concat]
      refine ⟨fun hmem => ?_, h.ids⟩
      obtain ⟨row, hrow, hid⟩ := mem_map.mp hmem
      have hle := (h.positive row hrow).2
      dsimp only at hid
      omega
    · intro row hrow
      have hpos := h.small.1
      obtain hrow | hrow := mem_append.mp hrow
      · obtain ⟨hlt, hle⟩ := h.positive row hrow
        dsimp only
        omega
      rw [mem_singleton.mp hrow]
      dsimp only
      omega
    · have hpos := h.small.1
      dsimp only
      omega
    · exact h.pairs
    · exact h.ascending
    · intro link hlink
      obtain ⟨hne, hfirst, hsecond⟩ := h.joined link hlink
      exact ⟨hne, hrows _ hfirst, hrows _ hsecond⟩

def updatedRow (like : OicUuid → OicUuid → Bool) (u : OicUuid) (new : PdmDeviceState)
    (row : DeviceRow) : DeviceRow :=
  if like u row.uuid then { row with state := new } else row

def staleAt (id : ℤ) (link : LinkRow) : LinkRow :=
  if link.id = id ∨ link.id2 = id then { link with state := .stale } else link

lemma onlyStates_updatedRow {newLink : LinkRow → LinkRow} (u : OicUuid) (new : PdmDeviceState)
    (hid : ∀ link, (newLink link).id = link.id) (hid2 : ∀ link, (newLink link).id2 = link.id2) :
    OnlyStates (updatedRow like u new) newLink where
  rowId := by
    intro row
    rw [updatedRow]
    split_ifs <;> rfl
  rowUuid := by
    intro row
    rw [updatedRow]
    split_ifs <;> rfl
  linkId := hid
  linkId2 := hid2

lemma staleAt_id (id : ℤ) (link : LinkRow) :
    (staleAt id link).id = link.id ∧ (staleAt id link).id2 = link.id2 := by
  rw [staleAt]
  split_ifs
  · exact ⟨rfl, rfl⟩
  · exact ⟨rfl, rfl⟩

lemma device_updatedRow {newLink : LinkRow → LinkRow} {u : OicUuid} {new : PdmDeviceState}
    (hsame : OnlyStates (updatedRow like u new) newLink) (hfinds : FindsIt like db u)
    (hthere : ∃ row ∈ db.devices, row.uuid = u) (a : OicUuid) (state : PdmDeviceState) :
    (relationsOf (db.withStates (updatedRow like u new) newLink)).device a state
      ↔ a = u ∧ state = new ∨ a ≠ u ∧ (relationsOf db).device a state := by
  rw [device_withStates hsame]
  constructor
  · rintro ⟨row, hrow, rfl, hstate⟩
    rw [updatedRow] at hstate
    by_cases huuid : row.uuid = u
    · rw [if_pos ((hfinds row hrow).mpr huuid)] at hstate
      exact .inl ⟨huuid, hstate.symm⟩
    rw [if_neg (fun hlike => huuid ((hfinds row hrow).mp hlike))] at hstate
    exact .inr ⟨huuid, row, hrow, rfl, hstate⟩
  · rintro (⟨rfl, rfl⟩ | ⟨hne, row, hrow, rfl, hstate⟩)
    · obtain ⟨row, hrow, huuid⟩ := hthere
      refine ⟨row, hrow, huuid, ?_⟩
      rw [updatedRow, if_pos ((hfinds row hrow).mpr huuid)]
    · refine ⟨row, hrow, rfl, ?_⟩
      rw [updatedRow, if_neg (fun hlike => hne ((hfinds row hrow).mp hlike))]
      exact hstate

variable {row : DeviceRow}

lemma link_staleAt {newRow : DeviceRow → DeviceRow} (h : Sound db)
    (hsame : OnlyStates newRow (staleAt row.id)) (hrow : row ∈ db.devices) (a b : OicUuid)
    (state : PdmDeviceState) :
    (relationsOf (db.withStates newRow (staleAt row.id))).link a b state
      ↔ (a = row.uuid ∨ b = row.uuid) ∧ state = .stale ∧ (∃ old, (relationsOf db).link a b old)
        ∨ ¬ (a = row.uuid ∨ b = row.uuid) ∧ (relationsOf db).link a b state := by
  rw [link_withStates hsame]
  constructor
  · rintro ⟨row1, hrow1, row2, hrow2, link, hlink, rfl, rfl, hjoins, hstate⟩
    have htouches := h.touches_iff hrow1 hrow2 hrow hjoins
    rw [staleAt] at hstate
    by_cases hends : row1.uuid = row.uuid ∨ row2.uuid = row.uuid
    · rw [if_pos (htouches.mpr hends)] at hstate
      exact .inl ⟨hends, hstate.symm, link.state, row1, hrow1, row2, hrow2, link, hlink, rfl, rfl,
        hjoins, rfl⟩
    rw [if_neg (fun hyes => hends (htouches.mp hyes))] at hstate
    exact .inr ⟨hends, row1, hrow1, row2, hrow2, link, hlink, rfl, rfl, hjoins, hstate⟩
  · rintro (⟨hends, rfl, old, row1, hrow1, row2, hrow2, link, hlink, rfl, rfl, hjoins, -⟩
      | ⟨hends, row1, hrow1, row2, hrow2, link, hlink, rfl, rfl, hjoins, hstate⟩)
    · refine ⟨row1, hrow1, row2, hrow2, link, hlink, rfl, rfl, hjoins, ?_⟩
      rw [staleAt, if_pos ((h.touches_iff hrow1 hrow2 hrow hjoins).mpr hends)]
    · refine ⟨row1, hrow1, row2, hrow2, link, hlink, rfl, rfl, hjoins, ?_⟩
      rw [staleAt, if_neg (fun hyes =>
        hends ((h.touches_iff hrow1 hrow2 hrow hjoins).mp hyes))]
      exact hstate

lemma setDeviceState_exact (h : Sound db) (u : OicUuid) (new : PdmDeviceState)
    (hfinds : FindsIt like db u) (hthere : new = .stale ∨ ∃ row ∈ db.devices, row.uuid = u) :
    Does ((relationsOf db).Has u) (relationsOf db)
        (if new = .stale then ((relationsOf db).staleLinks u).setState u new
          else (relationsOf db).setState u new)
        (pdmSetDeviceState like db u new).1 (relationsOf (pdmSetDeviceState like db u new).2)
      ∧ Sound (pdmSetDeviceState like db u new).2 := by
  rw [has_iff]
  by_cases hstale : new = .stale
  · rw [pdmSetDeviceState, if_pos hstale, if_pos hstale, updateLinkForStaleDevice]
    obtain ⟨row, hrow, rfl, hid, -⟩ | ⟨hnone, hid, -⟩ := lookup_cases h hfinds
    · have hsame : OnlyStates (updatedRow like row.uuid new) (staleAt row.id) :=
        onlyStates_updatedRow row.uuid new (fun link => (staleAt_id row.id link).1)
          (fun link => (staleAt_id row.id link).2)
      rw [hid]
      refine ⟨⟨fun _ => ⟨rfl, ?_⟩, fun hno => absurd ⟨row, hrow, rfl⟩ hno⟩,
        sound_withStates h hsame⟩
      apply Relations.ext
      · funext a state
        exact propext (device_updatedRow hsame hfinds ⟨row, hrow, rfl⟩ a state)
      · funext a b state
        exact propext (link_staleAt h hsame hrow a b state)
    rw [hid]
    refine ⟨⟨fun ⟨row, hrow, huuid⟩ => absurd huuid (hnone row hrow), fun _ => ⟨?_, rfl⟩⟩, h⟩
    exact fun hok => PdmResult.noConfusion hok
  have hthere := hthere.resolve_left hstale
  have hsame : OnlyStates (updatedRow like u new) id :=
    onlyStates_updatedRow u new (fun link => rfl) (fun link => rfl)
  have hcall : pdmSetDeviceState like db u new
      = (.ok, db.withStates (updatedRow like u new) id) := by
    rw [pdmSetDeviceState, if_neg hstale, updateDeviceState, Pdm.withStates, map_id]
    rfl
  rw [if_neg hstale, hcall]
  refine ⟨⟨fun _ => ⟨rfl, ?_⟩, fun hno => absurd hthere hno⟩, sound_withStates h hsame⟩
  apply Relations.ext
  · funext a state
    exact propext (device_updatedRow hsame hfinds hthere a state)
  · funext a b state
    exact propext (link_withStates hsame a b state)

lemma deleteDevice_exact (h : Sound db) (u : OicUuid) (hfinds : FindsIt like db u)
    (hlinks : ∀ row ∈ db.devices, row.uuid = u →
      ∀ link ∈ db.links, link.id ≠ row.id ∧ link.id2 ≠ row.id) :
    Does ((relationsOf db).Has u) (relationsOf db) ((relationsOf db).forget u)
        (pdmDeleteDevice like db u).1 (relationsOf (pdmDeleteDevice like db u).2)
      ∧ Sound (pdmDeleteDevice like db u).2 := by
  rw [has_iff, pdmDeleteDevice]
  obtain ⟨row, hrow, huuid, hid, -⟩ | ⟨hnone, hid, -⟩ := lookup_cases h hfinds
  · rw [hid]
    have hkept : ∀ other, other ∈ (removeFromDeviceList db row.id).2.devices
        ↔ other ∈ db.devices ∧ other.uuid ≠ u := by
      intro other
      rw [removeFromDeviceList, mem_filter, decide_eq_true_iff, ← huuid]
      exact and_congr_right (fun hother => not_congr (h.id_iff_uuid hother hrow))
    have hlink := hlinks row hrow huuid
    refine ⟨⟨fun _ => ⟨rfl, ?_⟩, fun hno => absurd ⟨row, hrow, huuid⟩ hno⟩, ?_⟩
    · apply Relations.ext
      · funext a state
        apply propext
        constructor
        · rintro ⟨other, hother, rfl, hstate⟩
          obtain ⟨hother, hne⟩ := (hkept other).mp hother
          exact ⟨hne, other, hother, rfl, hstate⟩
        · rintro ⟨hne, other, hother, rfl, hstate⟩
          exact ⟨other, (hkept other).mpr ⟨hother, hne⟩, rfl, hstate⟩
      · funext a b state
        apply propext
        constructor
        · rintro ⟨row1, hrow1, row2, hrow2, link, hthere, rfl, rfl, hrest⟩
          obtain ⟨hrow1, hne1⟩ := (hkept row1).mp hrow1
          obtain ⟨hrow2, hne2⟩ := (hkept row2).mp hrow2
          exact ⟨hne1, hne2, row1, hrow1, row2, hrow2, link, hthere, rfl, rfl, hrest⟩
        · rintro ⟨hne1, hne2, row1, hrow1, row2, hrow2, link, hthere, rfl, rfl, hrest⟩
          exact ⟨row1, (hkept row1).mpr ⟨hrow1, hne1⟩, row2, (hkept row2).mpr ⟨hrow2, hne2⟩, link,
            hthere, rfl, rfl, hrest⟩
    · constructor
      · exact h.uuids.sublist (filter_sublist.map DeviceRow.uuid)
      · exact h.ids.sublist (filter_sublist.map DeviceRow.id)
      · exact fun other hother => h.positive other ((hkept other).mp hother).1
      · exact h.small
      · exact h.pairs
      · exact h.ascending
      · intro link hthere
        obtain ⟨hne, ⟨first, hfirst, hid1⟩, second, hsecond, hid2⟩ := h.joined link hthere
        obtain ⟨hnot, hnot2⟩ := hlink link hthere
        refine ⟨hne, ⟨first, (hkept first).mpr ⟨hfirst, ?_⟩, hid1⟩, second,
          (hkept second).mpr ⟨hsecond, ?_⟩, hid2⟩
        · rw [← huuid]
          exact fun hsame => hnot (hid1.symm.trans ((h.id_iff_uuid hfirst hrow).mpr hsame))
        · rw [← huuid]
          exact fun hsame => hnot2 (hid2.symm.trans ((h.id_iff_uuid hsecond hrow).mpr hsame))
  · rw [hid]
    refine ⟨⟨fun ⟨row, hrow, huuid⟩ => absurd huuid (hnone row hrow), fun _ => ⟨?_, rfl⟩⟩, h⟩
    exact fun hok => PdmResult.noConfusion hok

lemma lookups_cases (h : Sound db) {u v : OicUuid} (hu : FindsIt like db u)
    (hv : FindsIt like db v) :
    (∃ row ∈ db.devices, ∃ row2 ∈ db.devices, row.uuid = u ∧ row2.uuid = v
        ∧ ascendingIds like db u v = some (ascendingOrder row.id row2.id)
        ∧ pdmGetDeviceState like db u = row.state ∧ pdmGetDeviceState like db v = row2.state)
      ∨ ¬ ((relationsOf db).Has u ∧ (relationsOf db).Has v) ∧ ascendingIds like db u v = none := by
  rw [has_iff, has_iff, ascendingIds]
  obtain ⟨row, hrow, huuid, hid, hstate⟩ | ⟨hnone, hid, hstate⟩ := lookup_cases h hu
  · obtain ⟨row2, hrow2, huuid2, hid2, hstate2⟩ | ⟨hnone, hid2, hstate2⟩ := lookup_cases h hv
    · refine .inl ⟨row, hrow, row2, hrow2, huuid, huuid2, ?_, hstate, hstate2⟩
      rw [hid, hid2]
      rfl
    refine .inr ⟨fun ⟨_, row2, hrow2, huuid2⟩ => hnone row2 hrow2 huuid2, ?_⟩
    rw [hid, hid2]
    rfl
  refine .inr ⟨fun ⟨⟨row, hrow, huuid⟩, _⟩ => hnone row hrow huuid, ?_⟩
  rw [hid]
  rfl

variable {row2 : DeviceRow} {link : LinkRow}

lemma Sound.samePair_iff (h : Sound db) {a b : DeviceRow} (hrow : row ∈ db.devices)
    (hrow2 : row2 ∈ db.devices) (ha : a ∈ db.devices) (hb : b ∈ db.devices)
    (hjoins : link.Joins a.id b.id) :
    link.Joins row.id row2.id ↔ Relations.SamePair a.uuid b.uuid row.uuid row2.uuid := by
  rw [Relations.SamePair, ← h.id_iff_uuid ha hrow, ← h.id_iff_uuid hb hrow2,
    ← h.id_iff_uuid ha hrow2, ← h.id_iff_uuid hb hrow]
  unfold LinkRow.Joins LinkRow.isPair
  obtain ⟨hid, hid2⟩ | ⟨hid, hid2⟩ := hjoins
  · rw [hid, hid2]
  rw [hid, hid2]
  tauto

lemma unlinkDevices_exact (h : Sound db) (u v : OicUuid) (hu : FindsIt like db u)
    (hv : FindsIt like db v) :
    Does ((relationsOf db).Has u ∧ (relationsOf db).Has v) (relationsOf db)
        ((relationsOf db).disconnect u v) (pdmUnlinkDevices like db u v).1
        (relationsOf (pdmUnlinkDevices like db u v).2)
      ∧ Sound (pdmUnlinkDevices like db u v).2 := by
  rw [pdmUnlinkDevices]
  obtain ⟨row, hrow, row2, hrow2, rfl, rfl, hid, -⟩ | ⟨hnot, hid⟩ := lookups_cases h hu hv
  · rw [hid]
    have hcan : (relationsOf db).Has row.uuid ∧ (relationsOf db).Has row2.uuid :=
      ⟨(has_iff _).mpr ⟨row, hrow, rfl⟩, (has_iff _).mpr ⟨row2, hrow2, rfl⟩⟩
    have hkept : ∀ link, link ∈ (removeLink db (ascendingOrder row.id row2.id).1
          (ascendingOrder row.id row2.id).2).2.links
        ↔ link ∈ db.links ∧ ¬ link.Joins row.id row2.id := by
      intro link
      rw [removeLink, mem_filter, decide_eq_true_iff]
      exact and_congr_right (fun hlink =>
        not_congr (isPair_ascendingOrder (h.ascending link hlink) row.id row2.id))
    refine ⟨⟨fun _ => ⟨rfl, ?_⟩, fun hno => absurd hcan hno⟩, ?_⟩
    · apply Relations.ext
      · rfl
      · funext a b state
        apply propext
        constructor
        · rintro ⟨first, hfirst, second, hsecond, link, hlink, rfl, rfl, hjoins, hstate⟩
          obtain ⟨hlink, hne⟩ := (hkept link).mp hlink
          rw [h.samePair_iff hrow hrow2 hfirst hsecond hjoins] at hne
          exact ⟨hne, first, hfirst, second, hsecond, link, hlink, rfl, rfl, hjoins, hstate⟩
        · rintro ⟨hne, first, hfirst, second, hsecond, link, hlink, rfl, rfl, hjoins, hstate⟩
          rw [← h.samePair_iff hrow hrow2 hfirst hsecond hjoins] at hne
          exact ⟨first, hfirst, second, hsecond, link, (hkept link).mpr ⟨hlink, hne⟩, rfl, rfl,
            hjoins, hstate⟩
    · constructor
      · exact h.uuids
      · exact h.ids
      · exact h.positive
      · exact h.small
      · exact h.pairs.sublist (filter_sublist.map _)
      · exact fun link hlink => h.ascending link ((hkept link).mp hlink).1
      · exact fun link hlink => h.joined link ((hkept link).mp hlink).1
  · rw [hid]
    exact ⟨⟨fun hyes => absurd hyes hnot, fun _ => ⟨fun hok => PdmResult.noConfusion hok, rfl⟩⟩, h⟩

def staleIf (pair : ℤ × ℤ) (link : LinkRow) : LinkRow :=
  if link.isPair pair.1 pair.2 then { link with state := .stale } else link

lemma onlyStates_staleIf (pair : ℤ × ℤ) : OnlyStates id (staleIf pair) where
  rowId := fun _ => rfl
  rowUuid := fun _ => rfl
  linkId := by
    intro link
    rw [staleIf]
    split_ifs <;> rfl
  linkId2 := by
    intro link
    rw [staleIf]
    split_ifs <;> rfl

section

variable (h : Sound db)
include h

lemma setLinkStale_exact (u v : OicUuid) (hu : FindsIt like db u) (hv : FindsIt like db v) :
    Does ((relationsOf db).Has u ∧ (relationsOf db).Has v) (relationsOf db)
        ((relationsOf db).staleLink u v) (pdmSetLinkStale like db u v).1
        (relationsOf (pdmSetLinkStale like db u v).2)
      ∧ Sound (pdmSetLinkStale like db u v).2 := by
  rw [pdmSetLinkStale]
  obtain ⟨row, hrow, row2, hrow2, rfl, rfl, hid, -⟩ | ⟨hnot, hid⟩ := lookups_cases h hu hv
  · have hcan : (relationsOf db).Has row.uuid ∧ (relationsOf db).Has row2.uuid :=
      ⟨(has_iff _).mpr ⟨row, hrow, rfl⟩, (has_iff _).mpr ⟨row2, hrow2, rfl⟩⟩
    have hcall : updateLinkState db (ascendingOrder row.id row2.id).1
        (ascendingOrder row.id row2.id).2 .stale
          = (.ok, db.withStates id (staleIf (ascendingOrder row.id row2.id))) := by
      rw [updateLinkState, Pdm.withStates, map_id]
      rfl
    have hsame := onlyStates_staleIf (ascendingOrder row.id row2.id)
    have hpair : ∀ link ∈ db.links, ∀ first ∈ db.devices, ∀ second ∈ db.devices,
        link.Joins first.id second.id →
          (link.isPair (ascendingOrder row.id row2.id).1 (ascendingOrder row.id row2.id).2
            ↔ Relations.SamePair first.uuid second.uuid row.uuid row2.uuid) := by
      intro link hlink first hfirst second hsecond hjoins
      rw [isPair_ascendingOrder (h.ascending link hlink), h.samePair_iff hrow hrow2 hfirst hsecond
        hjoins]
    rw [hid]
    dsimp only
    rw [hcall]
    refine ⟨⟨fun _ => ⟨rfl, ?_⟩, fun hno => absurd hcan hno⟩, sound_withStates h hsame⟩
    apply Relations.ext
    · funext a state
      exact propext (device_withStates hsame a state)
    · funext a b state
      refine propext ((link_withStates hsame a b state).trans ?_)
      constructor
      · rintro ⟨first, hfirst, second, hsecond, link, hlink, rfl, rfl, hjoins, hstate⟩
        have hiff := hpair link hlink first hfirst second hsecond hjoins
        rw [staleIf] at hstate
        by_cases hsame : Relations.SamePair first.uuid second.uuid row.uuid row2.uuid
        · rw [if_pos (hiff.mpr hsame)] at hstate
          exact .inl ⟨hsame, hstate.symm, link.state, first, hfirst, second, hsecond, link, hlink,
            rfl, rfl, hjoins, rfl⟩
        rw [if_neg (fun hyes => hsame (hiff.mp hyes))] at hstate
        exact .inr ⟨hsame, first, hfirst, second, hsecond, link, hlink, rfl, rfl, hjoins, hstate⟩
      · rintro (⟨hsame, rfl, old, first, hfirst, second, hsecond, link, hlink, rfl, rfl, hjoins, -⟩
          | ⟨hsame, first, hfirst, second, hsecond, link, hlink, rfl, rfl, hjoins, hstate⟩)
        · refine ⟨first, hfirst, second, hsecond, link, hlink, rfl, rfl, hjoins, ?_⟩
          rw [staleIf, if_pos ((hpair link hlink first hfirst second hsecond hjoins).mpr hsame)]
        · refine ⟨first, hfirst, second, hsecond, link, hlink, rfl, rfl, hjoins, ?_⟩
          rw [staleIf, if_neg (fun hyes =>
            hsame ((hpair link hlink first hfirst second hsecond hjoins).mp hyes))]
          exact hstate
  · rw [hid]
    exact ⟨⟨fun hyes => absurd hyes hnot, fun _ => ⟨fun hok => PdmResult.noConfusion hok, rfl⟩⟩, h⟩

lemma active_iff (hrow : row ∈ db.devices) :
    (relationsOf db).device row.uuid .active ↔ row.state = .active :=
  device_iff h hrow .active

lemma exists_isPair_iff (hrow : row ∈ db.devices) (hrow2 : row2 ∈ db.devices)
    (Q : PdmDeviceState → Prop) :
    (∃ link ∈ db.links, link.isPair (ascendingOrder row.id row2.id).1
        (ascendingOrder row.id row2.id).2 ∧ Q link.state)
      ↔ ∃ state, (relationsOf db).link row.uuid row2.uuid state ∧ Q state := by
  constructor
  · rintro ⟨link, hlink, hpair, hQ⟩
    refine ⟨link.state, (link_iff h hrow hrow2 _).mpr ⟨link, hlink, ?_, rfl⟩, hQ⟩
    exact (isPair_ascendingOrder (h.ascending link hlink) row.id row2.id).mp hpair
  · rintro ⟨state, hlinked, hQ⟩
    obtain ⟨link, hlink, hjoins, rfl⟩ := (link_iff h hrow hrow2 state).mp hlinked
    exact ⟨link, hlink,
      (isPair_ascendingOrder (h.ascending link hlink) row.id row2.id).mpr hjoins, hQ⟩

lemma isLinkExists_exact (u v : OicUuid) (hu : FindsIt like db u) (hv : FindsIt like db v) :
    Does ((relationsOf db).device u .active ∧ (relationsOf db).device v .active) (relationsOf db)
        (relationsOf db) (pdmIsLinkExists like db u v).1 (relationsOf db)
      ∧ ((pdmIsLinkExists like db u v).1 = .ok →
        ((pdmIsLinkExists like db u v).2 = true ↔ (relationsOf db).link u v .active)) := by
  rw [pdmIsLinkExists]
  obtain ⟨row, hrow, row2, hrow2, rfl, rfl, hid, hstate, hstate2⟩ | ⟨hnot, hid⟩ :=
    lookups_cases h hu hv
  · have hlink := exists_isPair_iff h hrow hrow2 (· = .active)
    rw [hid, hstate, hstate2, active_iff h hrow, active_iff h hrow2]
    dsimp only
    by_cases hactive : row.state = .active
    · by_cases hactive2 : row2.state = .active
      · rw [if_neg (· hactive), if_neg (· hactive2)]
        refine ⟨⟨fun _ => ⟨rfl, rfl⟩, fun hno => absurd ⟨hactive, hactive2⟩ hno⟩, fun _ => ?_⟩
        rw [decide_eq_true_iff, hlink]
        exact ⟨fun ⟨state, hlinked, heq⟩ => heq ▸ hlinked, fun hlinked => ⟨_, hlinked, rfl⟩⟩
      rw [if_neg (· hactive), if_pos hactive2]
      exact ⟨⟨fun hyes => absurd hyes.2 hactive2,
        fun _ => ⟨fun hok => PdmResult.noConfusion hok, rfl⟩⟩,
        fun hok => PdmResult.noConfusion hok⟩
    rw [if_pos hactive]
    exact ⟨⟨fun hyes => absurd hyes.1 hactive,
      fun _ => ⟨fun hok => PdmResult.noConfusion hok, rfl⟩⟩, fun hok => PdmResult.noConfusion hok⟩
  rw [hid]
  refine ⟨⟨fun hyes => absurd ⟨⟨_, hyes.1⟩, ⟨_, hyes.2⟩⟩ hnot,
    fun _ => ⟨fun hok => PdmResult.noConfusion hok, rfl⟩⟩, fun hok => PdmResult.noConfusion hok⟩

lemma getUUIDforId_eq (hrow : row ∈ db.devices) :
    getUUIDforId db (sqlite3ColumnInt row.id) = some row.uuid := by
  rw [getUUIDforId, h.columnInt hrow]
  cases hfind : db.devices.find? (·.id = row.id) with
  | none =>
    exact absurd (decide_eq_true rfl) (find?_eq_none.mp hfind row hrow)
  | some found =>
    have hid := find?_some (p := fun found : DeviceRow => decide (found.id = row.id)) hfind
    rw [Option.map_some, h.row_of_id (mem_of_find?_eq_some hfind) hrow (of_decide_eq_true hid)]

lemma linkedUuid_eq (hrow : row ∈ db.devices) (hrow2 : row2 ∈ db.devices) (hlink : link ∈ db.links)
    (hjoins : link.Joins row.id row2.id) : linkedUuid db row.id link = row2.uuid := by
  have hne := (h.joined link hlink).1
  have hcol := h.columnInt hrow
  have hcol2 := h.columnInt hrow2
  rw [linkedUuid]
  obtain ⟨hid, hid2⟩ | ⟨hid, hid2⟩ := hjoins
  · rw [hid, hid2] at hne
    rw [hid, hid2, hcol2, if_pos hne.symm, ← hcol2, getUUIDforId_eq h hrow2]
    rfl
  rw [hid, hid2] at hne
  rw [hid, hid2, hcol, hcol2, if_pos hne, if_neg (· rfl), ← hcol2, getUUIDforId_eq h hrow2]
  rfl

lemma getLinkedDevices_exact (u : OicUuid) (hfinds : FindsIt like db u) :
    Does ((relationsOf db).device u .active) (relationsOf db) (relationsOf db)
        (pdmGetLinkedDevices like db u).1 (relationsOf db)
      ∧ ((pdmGetLinkedDevices like db u).1 = .ok → (pdmGetLinkedDevices like db u).2.Nodup
          ∧ ∀ v, v ∈ (pdmGetLinkedDevices like db u).2 ↔ (relationsOf db).link u v .active) := by
  rw [pdmGetLinkedDevices]
  obtain ⟨row, hrow, rfl, hid, hstate⟩ | ⟨hnone, hid, hstate⟩ := lookup_cases h hfinds
  · rw [hid, hstate, active_iff h hrow]
    dsimp only
    by_cases hactive : row.state = .active
    · rw [if_neg (· hactive)]
      refine ⟨⟨fun _ => ⟨rfl, rfl⟩, fun hno => absurd hactive hno⟩, fun _ => ?_⟩
      -- a link with an end here joins the device with another
      have hother : ∀ link ∈ db.links.filter (fun link =>
          (link.id = row.id ∨ link.id2 = row.id) ∧ link.state = .active),
          link ∈ db.links ∧ link.state = .active ∧ ∃ row2 ∈ db.devices, link.Joins row.id row2.id
              ∧ linkedUuid db row.id link = row2.uuid := by
        intro link hmem
        obtain ⟨hlink, hends⟩ := mem_filter.mp hmem
        obtain ⟨hends, hlinkState⟩ := of_decide_eq_true hends
        obtain ⟨-, ⟨first, hfirst, hid1⟩, second, hsecond, hid2⟩ := h.joined link hlink
        obtain hend | hend := hends
        · have hjoins : link.Joins row.id second.id := .inl ⟨hend, hid2.symm⟩
          exact ⟨hlink, hlinkState, second, hsecond, hjoins,
            linkedUuid_eq h hrow hsecond hlink hjoins⟩
        have hjoins : link.Joins row.id first.id := .inr ⟨hid1.symm, hend⟩
        exact ⟨hlink, hlinkState, first, hfirst, hjoins, linkedUuid_eq h hrow hfirst hlink hjoins⟩
      constructor
      · rw [nodup_reverse]
        refine List.Nodup.map_on ?_ ((List.Nodup.of_map _ h.pairs).filter _)
        intro link hmem link' hmem' heq
        obtain ⟨hlink, -, row2, hrow2, hjoins, huuid⟩ := hother link hmem
        obtain ⟨hlink', -, row2', hrow2', hjoins', huuid'⟩ := hother link' hmem'
        have hsame : row2 = row2' :=
          h.row_of_uuid hrow2 hrow2' (huuid.symm.trans (heq.trans huuid'))
        rw [← hsame] at hjoins'
        have hpair := (isPair_ascendingOrder (h.ascending link hlink) row.id row2.id).mpr hjoins
        have hpair' :=
          (isPair_ascendingOrder (h.ascending link' hlink') row.id row2.id).mpr hjoins'
        apply inj_on_of_nodup_map h.pairs hlink hlink'
        rw [hpair.1, hpair.2, hpair'.1, hpair'.2]
      · intro v
        rw [mem_reverse, mem_map]
        constructor
        · rintro ⟨link, hmem, rfl⟩
          obtain ⟨hlink, hlinkState, row2, hrow2, hjoins, huuid⟩ := hother link hmem
          rw [huuid]
          exact (link_iff h hrow hrow2 _).mpr ⟨link, hlink, hjoins, hlinkState⟩
        · rintro ⟨row', hrow', row2, hrow2, link, hlink, huuid, rfl, hjoins, hlinkState⟩
          rw [h.row_of_uuid hrow' hrow huuid] at hjoins
          refine ⟨link, mem_filter.mpr ⟨hlink, decide_eq_true ⟨?_, hlinkState⟩⟩,
            linkedUuid_eq h hrow hrow2 hlink hjoins⟩
          exact hjoins.imp (·.1) (·.2)
    · rw [if_pos hactive]
      exact ⟨⟨fun hyes => absurd hyes hactive,
        fun _ => ⟨fun hok => PdmResult.noConfusion hok, rfl⟩⟩, fun hok => PdmResult.noConfusion hok⟩
  · rw [hid, hstate, if_pos (by decide)]
    refine ⟨⟨fun ⟨row, hrow, huuid, _⟩ => absurd huuid (hnone row hrow),
      fun _ => ⟨fun hok => PdmResult.noConfusion hok, rfl⟩⟩, fun hok => PdmResult.noConfusion hok⟩

end

def newLink (row row2 : DeviceRow) : LinkRow :=
  ⟨(ascendingOrder row.id row2.id).1, (ascendingOrder row.id row2.id).2, .active⟩

lemma newLink_ascending (hne : row.id ≠ row2.id) :
    (newLink row row2).id < (newLink row row2).id2 := by
  rw [newLink, ascendingOrder]
  split_ifs with hgt
  · exact hgt
  · exact lt_of_le_of_ne (not_lt.mp hgt) hne

lemma joins_symm {id1 id2 : ℤ} (h : link.Joins id1 id2) : link.Joins id2 id1 :=
  Or.symm h

lemma connected (h : Sound db) (hrow : row ∈ db.devices) (hrow2 : row2 ∈ db.devices)
    (hne : row.uuid ≠ row2.uuid)
    (hnone : ¬ ∃ link ∈ db.links, link.isPair (ascendingOrder row.id row2.id).1
      (ascendingOrder row.id row2.id).2) :
    relationsOf { db with links := db.links ++ [newLink row row2] }
        = (relationsOf db).connect row.uuid row2.uuid
      ∧ Sound { db with links := db.links ++ [newLink row row2] } := by
  have hids : row.id ≠ row2.id := fun hid => hne ((h.id_iff_uuid hrow hrow2).mp hid)
  have hnew : (newLink row row2).Joins row.id row2.id :=
    (isPair_ascendingOrder (newLink_ascending hids) row.id row2.id).mp ⟨rfl, rfl⟩
  constructor
  · apply Relations.ext
    · rfl
    · funext a b state
      apply propext
      constructor
      · rintro ⟨first, hfirst, second, hsecond, link, hlink, rfl, rfl, hjoins, hstate⟩
        obtain hlink | hlink := mem_append.mp hlink
        · exact .inr ⟨first, hfirst, second, hsecond, link, hlink, rfl, rfl, hjoins, hstate⟩
        rw [mem_singleton.mp hlink] at hjoins hstate
        exact .inl ⟨(h.samePair_iff hrow hrow2 hfirst hsecond hjoins).mp hnew, hstate.symm⟩
      · have hmem : newLink row row2 ∈ db.links ++ [newLink row row2] :=
          mem_append_right _ (mem_singleton_self _)
        rintro (⟨⟨rfl, rfl⟩ | ⟨rfl, rfl⟩, rfl⟩
          | ⟨first, hfirst, second, hsecond, link, hlink, hrest⟩)
        · exact ⟨row, hrow, row2, hrow2, _, hmem, rfl, rfl, hnew, rfl⟩
        · exact ⟨row2, hrow2, row, hrow, _, hmem, rfl, rfl, joins_symm hnew, rfl⟩
        · exact ⟨first, hfirst, second, hsecond, link, mem_append_left _ hlink, hrest⟩
  · have hlinks : ∀ link ∈ db.links ++ [newLink row row2],
        link ∈ db.links ∨ link = newLink row row2 := by
      intro link hlink
      exact (mem_append.mp hlink).imp_right mem_singleton.mp
    constructor
    · exact h.uuids
    · exact h.ids
    · exact h.positive
    · exact h.small
    · rw [map_append, map_singleton, ← concat_eq_append, nodup_concat]
      refine ⟨fun hmem => hnone ?_, h.pairs⟩
      obtain ⟨link, hlink, hpair⟩ := mem_map.mp hmem
      exact ⟨link, hlink, Prod.mk.inj hpair⟩
    · intro link hlink
      obtain hlink | rfl := hlinks link hlink
      · exact h.ascending link hlink
      · exact newLink_ascending hids
    · intro link hlink
      obtain hlink | rfl := hlinks link hlink
      · exact h.joined link hlink
      refine ⟨(newLink_ascending hids).ne, ?_⟩
      obtain ⟨hid, hid2⟩ | ⟨hid, hid2⟩ := hnew
      · exact ⟨⟨row, hrow, hid.symm⟩, row2, hrow2, hid2.symm⟩
      · exact ⟨⟨row2, hrow2, hid.symm⟩, row, hrow, hid2.symm⟩

lemma linkDevices_exact (h : Sound db) (u v : OicUuid) (hu : FindsIt like db u)
    (hv : FindsIt like db v)
    (hself : u = v → ∀ row ∈ db.devices, row.uuid = u → row.state ≠ .active) :
    Does (u ≠ v ∧ (relationsOf db).device u .active ∧ (relationsOf db).device v .active
          ∧ ¬ ∃ state, (relationsOf db).link u v state) (relationsOf db)
        ((relationsOf db).connect u v) (pdmLinkDevices like db u v).1
        (relationsOf (pdmLinkDevices like db u v).2)
      ∧ Sound (pdmLinkDevices like db u v).2 := by
  rw [pdmLinkDevices]
  obtain ⟨row, hrow, row2, hrow2, rfl, rfl, hid, hstate, hstate2⟩ | ⟨hnot, hid⟩ :=
    lookups_cases h hu hv
  · have hlinked := exists_isPair_iff h hrow hrow2 (fun _ => True)
    simp only [and_true] at hlinked
    rw [hid, hstate, hstate2, active_iff h hrow, active_iff h hrow2, ← hlinked]
    dsimp only
    by_cases hactive : row.state = .active
    · by_cases hactive2 : row2.state = .active
      · have hne : row.uuid ≠ row2.uuid :=
          fun heq => hself heq row hrow rfl hactive
        rw [if_neg (· hactive), if_neg (· hactive2), addlink]
        by_cases hthere : ∃ link ∈ db.links, link.isPair (ascendingOrder row.id row2.id).1
            (ascendingOrder row.id row2.id).2
        · rw [if_pos hthere]
          exact ⟨⟨fun hyes => absurd hthere hyes.2.2.2,
            fun _ => ⟨fun hok => PdmResult.noConfusion hok, rfl⟩⟩, h⟩
        rw [if_neg hthere]
        obtain ⟨hrelations, hsound⟩ := connected h hrow hrow2 hne hthere
        exact ⟨⟨fun _ => ⟨rfl, hrelations⟩,
          fun hno => absurd ⟨hne, hactive, hactive2, hthere⟩ hno⟩, hsound⟩
      rw [if_neg (· hactive), if_pos hactive2]
      exact ⟨⟨fun hyes => absurd hyes.2.2.1 hactive2,
        fun _ => ⟨fun hok => PdmResult.noConfusion hok, rfl⟩⟩, h⟩
    rw [if_pos hactive]
    exact ⟨⟨fun hyes => absurd hyes.2.1 hactive,
      fun _ => ⟨fun hok => PdmResult.noConfusion hok, rfl⟩⟩, h⟩
  have hcall : (if pdmGetDeviceState like db u ≠ .active then (PdmResult.invalidParam, db)
      else if pdmGetDeviceState like db v ≠ .active then (.invalidParam, db)
      else (.invalidParam, db)) = (.invalidParam, db) := by
    split_ifs <;> rfl
  rw [hid]
  dsimp only
  rw [hcall]
  exact ⟨⟨fun hyes => absurd ⟨⟨_, hyes.2.1⟩, ⟨_, hyes.2.2.1⟩⟩ hnot,
    fun _ => ⟨fun hok => PdmResult.noConfusion hok, rfl⟩⟩, h⟩

lemma getDeviceState_exact (h : Sound db) (u : OicUuid) (hfinds : FindsIt like db u) :
    ((relationsOf db).Has u → (relationsOf db).device u (pdmGetDeviceState like db u))
      ∧ (¬ (relationsOf db).Has u → pdmGetDeviceState like db u = .unknown) := by
  rw [has_iff]
  obtain ⟨row, hrow, rfl, -, hstate⟩ | ⟨hnone, -, hstate⟩ := lookup_cases h hfinds
  · rw [hstate]
    exact ⟨fun _ => ⟨row, hrow, rfl, rfl⟩, fun hno => absurd ⟨row, hrow, rfl⟩ hno⟩
  · exact ⟨fun ⟨row, hrow, huuid⟩ => absurd huuid (hnone row hrow), fun _ => hstate⟩

lemma callExact_of_clean (h : Sound db) (call : PdmCall) (hclean : CallClean like db call) :
    CallExact like db call ∧ Sound (pdmCall like db call).2 := by
  obtain ⟨hfinds, hallowed⟩ := hclean
  have hboth : Meets (relationsOf db) call (pdmCall like db call).1
      (relationsOf (pdmCall like db call).2) ∧ Sound (pdmCall like db call).2 := by
    cases call with
    | addDevice u => exact addDevice_exact h u hallowed
    | setDeviceState u state =>
      exact setDeviceState_exact h u state (hfinds u mem_cons_self) hallowed
    | deleteDevice u => exact deleteDevice_exact h u (hfinds u mem_cons_self) hallowed
    | linkDevices u v =>
      exact linkDevices_exact h u v (hfinds u mem_cons_self)
        (hfinds v (mem_cons_of_mem u mem_cons_self)) hallowed
    | unlinkDevices u v =>
      exact unlinkDevices_exact h u v (hfinds u mem_cons_self)
        (hfinds v (mem_cons_of_mem u mem_cons_self))
    | setLinkStale u v =>
      exact setLinkStale_exact h u v (hfinds u mem_cons_self)
        (hfinds v (mem_cons_of_mem u mem_cons_self))
    | getDeviceState u =>
      obtain ⟨hhas, hnot⟩ := getDeviceState_exact h u (hfinds u mem_cons_self)
      exact ⟨⟨hhas, hnot, rfl⟩, h⟩
    | isLinkExists u v =>
      exact ⟨isLinkExists_exact h u v (hfinds u mem_cons_self)
        (hfinds v (mem_cons_of_mem u mem_cons_self)), h⟩
    | getLinkedDevices u =>
      exact ⟨getLinkedDevices_exact h u (hfinds u mem_cons_self), h⟩
  exact ⟨⟨hboth.1, hboth.2.joined⟩, hboth.2⟩

end Calls

/-! ## The order of the two UUIDs -/

section Order

lemma ascendingOrder_comm (id1 id2 : ℤ) : ascendingOrder id1 id2 = ascendingOrder id2 id1 := by
  unfold ascendingOrder
  rcases lt_trichotomy id1 id2 with h | rfl | h
  · rw [if_neg (by omega), if_pos h]
  · rfl
  · rw [if_pos h, if_neg (by omega)]

lemma ascendingIds_comm (db : Pdm) (u v : OicUuid) :
    ascendingIds like db u v = ascendingIds like db v u := by
  unfold ascendingIds
  cases getIdForUUID like db u with
  | none =>
    cases getIdForUUID like db v with
    | none | some => rfl
  | some id1 =>
    cases getIdForUUID like db v with
    | none => rfl
    | some id2 => exact congrArg some (ascendingOrder_comm id1 id2)

lemma linkDevices_comm (db : Pdm) (u v : OicUuid) :
    pdmLinkDevices like db u v = pdmLinkDevices like db v u := by
  unfold pdmLinkDevices
  rw [ascendingIds_comm db u v]
  split_ifs <;> rfl

lemma isLinkExists_comm (db : Pdm) (u v : OicUuid) :
    pdmIsLinkExists like db u v = pdmIsLinkExists like db v u := by
  unfold pdmIsLinkExists
  rw [ascendingIds_comm db u v]
  cases ascendingIds like db v u with
  | none => rfl
  | some ids =>
    dsimp only
    split_ifs <;> rfl

end Order

/-- **The provisioning database.** Linking and the question for a link do not depend on the order of
the two UUIDs; and from empty tables a run whose calls do no harm does at each call what the call is
for, with links between devices of the table only. -/
theorem pdm_exact (like : OicUuid → OicUuid → Bool) :
    (∀ db u v, pdmLinkDevices like db u v = pdmLinkDevices like db v u
        ∧ pdmIsLinkExists like db u v = pdmIsLinkExists like db v u)
      ∧ ∀ calls, Runs.Along (pdmStep like) (CallClean like) Pdm.empty calls →
        Runs.Along (pdmStep like) (CallExact like) Pdm.empty calls := by
  refine ⟨fun db u v => ⟨linkDevices_comm db u v, isLinkExists_comm db u v⟩, fun calls hclean => ?_⟩
  exact Runs.along_of Sound (fun db call h hcall => callExact_of_clean h call hcall) sound_empty
    hclean

end Runs

/-- `LIKE` on two blobs, which are texts up to their first NUL. -/
def sqlLike (pattern text : OicUuid) : Bool :=
  LikePattern.like (pattern.id.toList.takeWhile (· ≠ 0)) (text.id.toList.takeWhile (· ≠ 0))

def sixteen (c : UInt8) : OicUuid := ⟨Vector.replicate 16 c⟩

def linkTwo : List PdmCall :=
  [.addDevice (sixteen 0x41), .setDeviceState (sixteen 0x41) .active,
    .addDevice (sixteen 0x42), .setDeviceState (sixteen 0x42) .active,
    .linkDevices (sixteen 0x41) (sixteen 0x42)]

def linkedPair : Pdm := (Runs.run (pdmStep sqlLike) Pdm.empty linkTwo).1

theorem deletedDevice_dangles :
    (pdmCall sqlLike linkedPair (.deleteDevice (sixteen 0x41)))
        = (.result .ok, ⟨[⟨2, sixteen 0x42, .active⟩], [⟨1, 2, .active⟩], 2⟩)
      ∧ (pdmCall sqlLike (pdmCall sqlLike linkedPair (.deleteDevice (sixteen 0x41))).2
          (.getLinkedDevices (sixteen 0x42))).1 = .linkedDevices .ok [.nil]
      ∧ (pdmCall sqlLike Pdm.empty (.setDeviceState (sixteen 0x41) .active))
        = (.result .ok, Pdm.empty)
      ∧ (pdmCall sqlLike linkedPair (.setDeviceState (sixteen 0x61) .init))
        = (.result .ok,
          ⟨[⟨1, sixteen 0x41, .init⟩, ⟨2, sixteen 0x42, .active⟩], [⟨1, 2, .active⟩], 2⟩) := by
  decide

theorem linkTwo_exact :
    Runs.Along (pdmStep sqlLike) (CallExact sqlLike) Pdm.empty linkTwo :=
  (pdm_exact sqlLike).2 linkTwo (by decide)

end Iochibity.Prov
