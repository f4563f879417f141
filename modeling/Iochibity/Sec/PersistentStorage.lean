/-
`psinterface.c`: the security database, one file that holds a CBOR map from resource names to byte
strings.
-/
import Iochibity.Lib.CborItem
import Iochibity.Lib.Runs
import Mathlib.Algebra.Order.BigOperators.Group.List

namespace Iochibity.Sec

open CborMap (Found)
open List

section

/-- What the storage code uses of tinycbor: `cbor_value_map_find_value` with
`cbor_value_is_byte_string` and `cbor_value_dup_byte_string` (`broken` when that fails), and the
encoding of an indefinite-length map of byte strings, as such and into a buffer of a given size. -/
structure TinyCbor where
  find : List UInt8 → String → Found
  encodeMap : List (String × List UInt8) → List UInt8
  encodeInto : Nat → List (String × List UInt8) → List UInt8

/-- tinycbor is correct: what was encoded is found again, a map is never empty,
and a buffer with room for the strings and nine bytes for each head takes it. -/
structure TinyCbor.Lawful (cbor : TinyCbor) : Prop where
  find_encodeMap : ∀ entries name, cbor.find (cbor.encodeMap entries) name
    = match entries.find? (·.1 == name) with
      | some e => .value e.2
      | none => .missing
  encodeMap_ne_nil : ∀ entries, cbor.encodeMap entries ≠ []
  encodeInto_eq : ∀ capacity entries, CborMap.sizeBound entries ≤ capacity →
    cbor.encodeInto capacity entries = cbor.encodeMap entries

def TinyCbor.standard : TinyCbor :=
  { find := CborMap.find, encodeMap := CborMap.encodeMap, encodeInto := CborMap.encodeInto }

lemma TinyCbor.standard_lawful : TinyCbor.standard.Lawful where
  find_encodeMap := CborMap.find_encodeMap
  encodeMap_ne_nil := CborMap.encodeMap_ne_nil
  encodeInto_eq := fun _ _ => CborMap.encodeInto_eq

/-! ## The database -/

/-- `OCStackResult`, the values the storage returns. -/
inductive OCStackResult
  | ok
  | error
  | invalidParam
  deriving DecidableEq

inductive SvrName
  | acl
  | pstat
  | doxm
  | amacl
  | cred
  | resetPf
  | crl
  | sp
  deriving DecidableEq

def SvrName.json : SvrName → String
  | .acl => "acl"
  | .pstat => "pstat"
  | .doxm => "doxm"
  | .amacl => "amacl"
  | .cred => "cred"
  | .resetPf => "resetpf"
  | .crl => "crl"
  | .sp => "sp"

/-- The names in the order of `UpdateResourceInPS`. -/
def svrNames : List SvrName := [.acl, .pstat, .doxm, .amacl, .cred, .resetPf, .crl, .sp]

lemma mem_svrNames (name : SvrName) : name ∈ svrNames := by
  cases name <;> decide

lemma json_inj {a b : SvrName} : a.json = b.json ↔ a = b := by
  constructor
  · cases a <;> cases b <;> decide
  · exact fun h => congrArg SvrName.json h

/-- How `ps->open` and `ps->write` go: no file, only `n` bytes, or all of it. -/
inductive WriteOutcome
  | openFailed
  | short (n : Nat)
  | complete
  deriving DecidableEq

/-- What one call meets: does the read go through, does `OICCalloc` give the output buffer, what is
left in the buffer of `crl` when copying it fails, and how the write goes. -/
structure Medium where
  readOk : Bool
  allocOk : Bool
  crlLeft : List UInt8
  write : WriteOutcome
  deriving DecidableEq

def cborEncodingSizeAddition : Nat := 255

/-- `WritePayloadToPS`: its result, the file afterwards, and whether the file
was opened for writing, which empties it. -/
def writePayloadToPS (write : WriteOutcome) (db payload : List UInt8) :
    OCStackResult × List UInt8 × Bool :=
  if payload = [] then (.invalidParam, db, false)
  else
    match write with
    | .openFailed => (.error, db, false)
    | .short n => (.error, payload.take (min n (payload.length - 1)), true)
    | .complete => (.ok, payload, true)

/-- `ReadDatabaseFromPS` of the whole file; an empty file reads as none. -/
def readDatabase (medium : Medium) (db : List UInt8) : Option (List UInt8) :=
  if db ≠ [] ∧ medium.readOk then some db else none

variable (cbor : TinyCbor)

def readResource (db : List UInt8) (name : SvrName) : Option (List UInt8) :=
  if db = [] then none
  else
    match cbor.find db name.json with
    | .value bytes => some bytes
    | _ => none

section

variable (medium : Medium) (db : List UInt8)

/-- The copy of a resource that `UpdateResourceInPS` makes; an empty copy means
there is none. Only a failed copy of `crl` is let through. -/
def copyOf (name : SvrName) : List UInt8 :=
  match cbor.find db name.json with
  | .missing => []
  | .value bytes => bytes
  | .broken => if name = .crl then medium.crlLeft else []

/-- What a call of `UpdateResourceInPS` returns and leaves. -/
structure UpdateOutcome where
  result : OCStackResult
  database : List UInt8
  opened : Bool
  deriving DecidableEq

def newEntries (name : SvrName) (payload : List UInt8) : List (String × List UInt8) :=
  (if payload = [] then [] else [(name.json, payload)])
    ++ (svrNames.filter (fun n => n ≠ name ∧ copyOf cbor medium db n ≠ [])).map
        (fun n => (n.json, copyOf cbor medium db n))

def allocSize (payload : List UInt8) : Nat :=
  (svrNames.map (fun n => (copyOf cbor medium db n).length)).sum + payload.length
    + cborEncodingSizeAddition

def updateResourceInPS (name : SvrName) (payload : List UInt8) : UpdateOutcome :=
  match readDatabase medium db with
  | some dbData =>
    -- `ret` holds the success of the read on every early exit
    if svrNames.any (fun n => n ≠ .crl ∧ cbor.find dbData n.json = .broken) then
      ⟨.ok, db, false⟩
    else if ¬ medium.allocOk then ⟨.ok, db, false⟩
    else
      let outPayload := cbor.encodeInto (allocSize cbor medium dbData payload)
        (newEntries cbor medium dbData name payload)
      let written := writePayloadToPS medium.write db outPayload
      ⟨written.1, written.2.1, written.2.2⟩
  | none =>
    if payload = [] then
      let written := writePayloadToPS medium.write db []
      ⟨written.1, written.2.1, written.2.2⟩
    else if ¬ medium.allocOk then ⟨.error, db, false⟩
    else
      let outPayload := cbor.encodeInto (payload.length + cborEncodingSizeAddition)
        [(name.json, payload)]
      let written := writePayloadToPS medium.write db outPayload
      ⟨written.1, written.2.1, written.2.2⟩

end

/-! ## What a written file holds -/

variable {cbor}

lemma length_keyBytes_json (name : SvrName) : (CborMap.keyBytes name.json).length ≤ 7 := by
  cases name <;> decide

section

variable (medium : Medium) (db : List UInt8) (name : SvrName) (payload : List UInt8)

lemma sizeBound_newEntries :
    CborMap.sizeBound (newEntries cbor medium db name payload)
      ≤ allocSize cbor medium db payload := by
  have hothers : ∀ names : List SvrName,
      (((names.filter (fun n => n ≠ name ∧ copyOf cbor medium db n ≠ [])).map
          (fun n => (n.json, copyOf cbor medium db n))).map
        (fun e => 18 + (CborMap.keyBytes e.1).length + e.2.length)).sum
      ≤ 25 * names.length + (names.map (fun n => (copyOf cbor medium db n).length)).sum := by
    intro names
    induction names with
    | nil => exact Nat.le_refl _
    | cons n names ih =>
      have hkey := length_keyBytes_json n
      rw [filter_cons, map_cons, sum_cons, length_cons]
      split_ifs
      · rw [map_cons, map_cons, sum_cons]
        dsimp only
        omega
      · omega
  have hall := hothers svrNames
  have hcount : svrNames.length = 8 := rfl
  have hkey := length_keyBytes_json name
  rw [CborMap.sizeBound, newEntries, map_append, sum_append, allocSize, cborEncodingSizeAddition]
  by_cases hpayload : payload = []
  · rw [if_pos hpayload, map_nil, sum_nil]
    omega
  rw [if_neg hpayload, map_singleton, sum_singleton]
  dsimp only
  omega

lemma sizeBound_single (name : SvrName) (payload : List UInt8) :
    CborMap.sizeBound [(name.json, payload)] ≤ payload.length + cborEncodingSizeAddition := by
  have hkey := length_keyBytes_json name
  rw [CborMap.sizeBound, map_singleton, sum_singleton, cborEncodingSizeAddition]
  dsimp only
  omega

lemma find_named (names : List SvrName) (value : SvrName → List UInt8) (n : SvrName) :
    (names.map (fun m => (m.json, value m))).find? (·.1 == n.json)
      = if n ∈ names then some (n.json, value n) else none := by
  induction names with
  | nil => rfl
  | cons m names ih =>
    rw [map_cons, find?_cons]
    by_cases hm : m = n
    · have hbeq : ((m.json, value m).1 == n.json) = true := beq_iff_eq.mpr (json_inj.mpr hm)
      rw [hbeq, if_pos (by rw [hm]; exact mem_cons_self), hm]
    have hbeq : ((m.json, value m).1 == n.json) = false :=
      beq_eq_false_iff_ne.mpr (fun h => hm (json_inj.mp h))
    rw [hbeq, ih]
    have hmem : n ∈ m :: names ↔ n ∈ names := by
      rw [mem_cons]
      exact or_iff_right (hm ·.symm)
    simp [hmem]

lemma find?_newEntries (n : SvrName) :
    (newEntries cbor medium db name payload).find? (·.1 == n.json)
      = if n = name then (if payload = [] then none else some (name.json, payload))
        else if copyOf cbor medium db n = [] then none
        else some (n.json, copyOf cbor medium db n) := by
  have hrest := find_named
    (svrNames.filter (fun m => m ≠ name ∧ copyOf cbor medium db m ≠ [])) (copyOf cbor medium db) n
  have hmem : n ∈ svrNames.filter (fun m => m ≠ name ∧ copyOf cbor medium db m ≠ [])
      ↔ n ≠ name ∧ copyOf cbor medium db n ≠ [] := by
    rw [mem_filter, decide_eq_true_eq]
    exact and_iff_right (mem_svrNames n)
  rw [newEntries, find?_append, hrest]
  simp only [hmem]
  by_cases hn : n = name
  · have hno : ¬ (n ≠ name ∧ copyOf cbor medium db n ≠ []) := fun h => h.1 hn
    simp only [if_neg hno, Option.or_none, if_pos hn]
    by_cases hpayload : payload = []
    · simp [if_pos hpayload]
    · simp [if_neg hpayload, hn]
  have hfirst : (if payload = [] then [] else [(name.json, payload)]).find?
      (·.1 == n.json) = none := by
    by_cases hpayload : payload = []
    · rw [if_pos hpayload]
      rfl
    have hbeq : ((name.json, payload).1 == n.json) = false :=
      beq_eq_false_iff_ne.mpr (fun h => hn (json_inj.mp h).symm)
    rw [if_neg hpayload, find?_cons, hbeq]
    rfl
  rw [hfirst, Option.none_or, if_neg hn]
  by_cases hcopy : copyOf cbor medium db n = []
  · rw [if_pos hcopy, if_neg (·.2 hcopy)]
  · rw [if_neg hcopy, if_pos ⟨hn, hcopy⟩]

end

lemma readResource_encodeMap (h : cbor.Lawful) (entries : List (String × List UInt8))
    (n : SvrName) :
    readResource cbor (cbor.encodeMap entries) n
      = (entries.find? (·.1 == n.json)).map Prod.snd := by
  rw [readResource, if_neg (h.encodeMap_ne_nil entries), h.find_encodeMap]
  cases entries.find? (·.1 == n.json) <;> rfl

/-! ## A call with a payload -/

/-- `UpdateResourceInPS` returns `OC_STACK_OK` and has written nothing. -/
def Skips (cbor : TinyCbor) (medium : Medium) (db : List UInt8) : Prop :=
  readDatabase medium db ≠ none
    ∧ ((∃ name : SvrName, name ≠ .crl ∧ cbor.find db name.json = .broken) ∨ medium.allocOk = false)

def newFile (cbor : TinyCbor) (medium : Medium) (db : List UInt8) (name : SvrName)
    (payload : List UInt8) : List UInt8 :=
  match readDatabase medium db with
  | some dbData => cbor.encodeMap (newEntries cbor medium dbData name payload)
  | none => cbor.encodeMap [(name.json, payload)]

variable {payload : List UInt8}

section

variable (h : cbor.Lawful) (medium : Medium) (db : List UInt8) (name : SvrName)
include h

lemma readResource_newFile (hpayload : payload ≠ []) :
    readResource cbor (newFile cbor medium db name payload) name = some payload := by
  unfold newFile
  cases readDatabase medium db with
  | some dbData =>
    dsimp only
    rw [readResource_encodeMap h, find?_newEntries, if_pos rfl, if_neg hpayload]
    rfl
  | none =>
    dsimp only
    rw [readResource_encodeMap h, find?_cons, beq_self_eq_true]
    rfl

lemma newFile_ne_nil (payload : List UInt8) : newFile cbor medium db name payload ≠ [] := by
  unfold newFile
  cases readDatabase medium db with
  | some | none => exact h.encodeMap_ne_nil _

lemma updateResourceInPS_cases (hpayload : payload ≠ []) :
    (Skips cbor medium db ∧ updateResourceInPS cbor medium db name payload = ⟨.ok, db, false⟩)
      ∨ (¬ Skips cbor medium db ∧ medium.allocOk = false
        ∧ updateResourceInPS cbor medium db name payload = ⟨.error, db, false⟩)
      ∨ (¬ Skips cbor medium db ∧ medium.allocOk = true
        ∧ updateResourceInPS cbor medium db name payload
          = ⟨(writePayloadToPS medium.write db (newFile cbor medium db name payload)).1,
            (writePayloadToPS medium.write db (newFile cbor medium db name payload)).2.1,
            (writePayloadToPS medium.write db (newFile cbor medium db name payload)).2.2⟩) := by
  unfold updateResourceInPS Skips newFile
  cases hread : readDatabase medium db with
  | some dbData =>
    have hsame : dbData = db := by
      obtain ⟨-, hsome⟩ := Option.ite_none_right_eq_some.mp hread
      exact (Option.some.inj hsome).symm
    rw [hsame]
    dsimp only
    have hany : svrNames.any (fun n => n ≠ .crl ∧ cbor.find db n.json = .broken) = true
        ↔ ∃ n : SvrName, n ≠ .crl ∧ cbor.find db n.json = .broken := by
      rw [any_eq_true]
      exact exists_congr (fun n => by rw [decide_eq_true_iff, and_iff_right (mem_svrNames n)])
    have hthere : some db ≠ none := Option.some_ne_none db
    by_cases hbroken : ∃ n : SvrName, n ≠ .crl ∧ cbor.find db n.json = .broken
    · rw [if_pos (hany.mpr hbroken)]
      exact .inl ⟨⟨hthere, .inl hbroken⟩, rfl⟩
    rw [if_neg (fun hyes => hbroken (hany.mp hyes))]
    cases halloc : medium.allocOk with
    | false =>
      rw [if_pos Bool.false_ne_true]
      exact .inl ⟨⟨hthere, .inr rfl⟩, rfl⟩
    | true =>
      rw [if_neg (· rfl), h.encodeInto_eq _ _ (sizeBound_newEntries ..)]
      refine .inr (.inr ⟨?_, rfl, rfl⟩)
      rintro ⟨-, hyes | hno⟩
      · exact hbroken hyes
      · exact Bool.noConfusion hno
  | none =>
    dsimp only
    rw [if_neg hpayload]
    cases halloc : medium.allocOk with
    | false =>
      rw [if_pos Bool.false_ne_true]
      exact .inr (.inl ⟨fun hno => hno.1 rfl, rfl, rfl⟩)
    | true =>
      rw [if_neg (· rfl), h.encodeInto_eq _ _ (sizeBound_single name payload)]
      exact .inr (.inr ⟨fun hno => hno.1 rfl, rfl, rfl⟩)

lemma updateResourceInPS_told (hpayload : payload ≠ []) :
    (Skips cbor medium db ∧ updateResourceInPS cbor medium db name payload = ⟨.ok, db, false⟩)
      ∨ (¬ Skips cbor medium db ∧ medium.allocOk = true ∧ medium.write = .complete
        ∧ (updateResourceInPS cbor medium db name payload).result = .ok
        ∧ readResource cbor (updateResourceInPS cbor medium db name payload).database name
          = some payload)
      ∨ (¬ (Skips cbor medium db ∨ medium.allocOk = true ∧ medium.write = .complete)
        ∧ (updateResourceInPS cbor medium db name payload).result ≠ .ok) := by
  have hfile := newFile_ne_nil h medium db name payload
  obtain ⟨hskips, hcall⟩ | ⟨hwritten, halloc, hcall⟩ | ⟨hwritten, halloc, hcall⟩ :=
    updateResourceInPS_cases h medium db name hpayload
  · exact .inl ⟨hskips, hcall⟩
  · refine .inr (.inr ⟨?_, ?_⟩)
    · rintro (hskips | ⟨hyes, -⟩)
      · exact hwritten hskips
      · exact Bool.noConfusion (halloc.symm.trans hyes)
    · rw [hcall]
      exact fun hok => OCStackResult.noConfusion hok
  · rw [hcall]
    cases hwrite : medium.write with
    | complete =>
      refine .inr (.inl ⟨hwritten, halloc, rfl, ?_, ?_⟩)
      · rw [writePayloadToPS, if_neg hfile]
      · rw [writePayloadToPS, if_neg hfile]
        exact readResource_newFile h medium db name hpayload
    | openFailed | short =>
      refine .inr (.inr ⟨?_, ?_⟩)
      · exact fun hyes => hyes.elim hwritten (WriteOutcome.noConfusion ·.2)
      · rw [writePayloadToPS, if_neg hfile]
        exact fun hok => OCStackResult.noConfusion hok

end

/-! ## A key-value store -/

/-- What a call owes: on success the updated name yields the payload, or nothing for an empty one,
and the others what they yielded before; a call that never opens the file leaves it alone and does
not report success. -/
def Meets (cbor : TinyCbor) (db : List UInt8) (name : SvrName) (payload : List UInt8)
    (outcome : UpdateOutcome) : Prop :=
  (outcome.result = .ok →
      readResource cbor outcome.database name = (if payload = [] then none else some payload)
        ∧ ∀ n, n ≠ name → readResource cbor outcome.database n = readResource cbor db n)
    ∧ (outcome.opened = false → outcome.database = db ∧ outcome.result ≠ .ok)

/-- When a call meets what it owes: with a file that can be read, nothing but `crl` is cut off in
it, the output buffer is allocated, and, if the write goes through, no other resource is stored as
an empty string and nothing is left over from a cut off `crl`; with one that cannot be read, the
call does not get to write, or there is nothing else to lose. -/
def Sound (cbor : TinyCbor) (medium : Medium) (db : List UInt8) (name : SvrName)
    (payload : List UInt8) : Prop :=
  db ≠ [] →
    (medium.readOk = true → (∀ n : SvrName, n ≠ .crl → cbor.find db n.json ≠ .broken)
        ∧ medium.allocOk = true
        ∧ (medium.write = .complete → (∀ n : SvrName, n ≠ name → cbor.find db n.json ≠ .value [])
              ∧ (cbor.find db SvrName.crl.json = .broken → name = .crl ∨ medium.crlLeft = [])))
    ∧ (medium.readOk = false → payload ≠ [] → medium.allocOk = true →
        medium.write = .complete → ∀ n, n ≠ name → readResource cbor db n = none)

variable {db : List UInt8} {name : SvrName}

lemma meets_refused {result : OCStackResult}
    (h : result ≠ .ok) : Meets cbor db name payload ⟨result, db, false⟩ :=
  ⟨fun hok => absurd hok h, fun _ => ⟨rfl, h⟩⟩

lemma not_meets_unwritten :
    ¬ Meets cbor db name payload ⟨.ok, db, false⟩ :=
  fun h => (h.2 rfl).2 rfl

lemma meets_written_iff {out : List UInt8} {write : WriteOutcome} (hout : out ≠ []) :
    Meets cbor db name payload ⟨(writePayloadToPS write db out).1,
        (writePayloadToPS write db out).2.1, (writePayloadToPS write db out).2.2⟩ ↔
      (write = .complete →
        readResource cbor out name = (if payload = [] then none else some payload)
          ∧ ∀ n, n ≠ name → readResource cbor out n = readResource cbor db n) := by
  simp only [writePayloadToPS, if_neg hout]
  cases write with
  | openFailed =>
    refine iff_of_true (meets_refused (fun h => OCStackResult.noConfusion h)) ?_
    intro h
    cases h
  | short n =>
    refine iff_of_true ⟨?_, ?_⟩ ?_
    · intro h
      cases h
    · intro h
      cases h
    · intro h
      cases h
  | complete =>
    constructor
    · intro h _
      exact h.1 rfl
    · intro h
      refine ⟨fun _ => h rfl, ?_⟩
      intro hopened
      cases hopened

variable {medium : Medium}

lemma others_kept_iff (h : cbor.Lawful) (hdb : db ≠ [])
    (hbroken : ∀ n : SvrName, n ≠ .crl → cbor.find db n.json ≠ .broken) :
    (∀ n, n ≠ name → readResource cbor (cbor.encodeMap (newEntries cbor medium db name payload)) n
          = readResource cbor db n) ↔
      (∀ n : SvrName, n ≠ name → cbor.find db n.json ≠ .value [])
        ∧ (cbor.find db SvrName.crl.json = .broken → name = .crl ∨ medium.crlLeft = []) := by
  have hread : ∀ n, n ≠ name →
      readResource cbor (cbor.encodeMap (newEntries cbor medium db name payload)) n
        = if copyOf cbor medium db n = [] then none else some (copyOf cbor medium db n) := by
    intro n hn
    rw [readResource_encodeMap h, find?_newEntries, if_neg hn]
    split_ifs <;> rfl
  constructor
  · intro hkept
    refine ⟨?_, ?_⟩
    · intro n hn hempty
      have hafter := hkept n hn
      rw [hread n hn, copyOf, readResource, if_neg hdb, hempty] at hafter
      cases hafter
    · intro hcrl
      by_cases hname : name = .crl
      · exact .inl hname
      right
      have hafter := hkept .crl (hname ·.symm)
      rw [hread .crl (hname ·.symm), copyOf, readResource, if_neg hdb, hcrl] at hafter
      by_contra hleft
      simp only [if_true, if_neg hleft] at hafter
      cases hafter
  · rintro ⟨hempty, hcrl⟩ n hn
    rw [hread n hn, copyOf, readResource, if_neg hdb]
    cases hfind : cbor.find db n.json with
    | missing => rfl
    | value bytes =>
      have hne : bytes ≠ [] := by
        intro heq
        rw [heq] at hfind
        exact hempty n hn hfind
      simp [if_neg hne]
    | broken =>
      have hncrl : n = .crl := by
        by_contra hne
        exact hbroken n hne hfind
      rw [hncrl] at hfind hn
      have hleft := (hcrl hfind).resolve_left (hn ·.symm)
      simp [hncrl, hleft]

lemma meets_iff_of_read (h : cbor.Lawful) (name : SvrName) (payload : List UInt8) (hdb : db ≠ [])
    (hread : medium.readOk = true) :
    Meets cbor db name payload (updateResourceInPS cbor medium db name payload) ↔
      Sound cbor medium db name payload := by
  have hdata : readDatabase medium db = some db := if_pos ⟨hdb, hread⟩
  unfold updateResourceInPS
  rw [hdata]
  dsimp only
  have hany : svrNames.any (fun n => n ≠ .crl ∧ cbor.find db n.json = .broken) = true ↔
      ¬ ∀ n : SvrName, n ≠ .crl → cbor.find db n.json ≠ .broken := by
    rw [any_eq_true]
    simp [mem_svrNames]
  by_cases hbroken : ∀ n : SvrName, n ≠ .crl → cbor.find db n.json ≠ .broken
  · rw [if_neg (by rw [hany]; exact not_not.mpr hbroken)]
    by_cases halloc : medium.allocOk = true
    · rw [if_neg (not_not.mpr halloc), h.encodeInto_eq _ _ (sizeBound_newEntries ..),
        meets_written_iff (h.encodeMap_ne_nil _)]
      have hself : readResource cbor (cbor.encodeMap (newEntries cbor medium db name payload)) name
            = if payload = [] then none else some payload := by
        rw [readResource_encodeMap h, find?_newEntries, if_pos rfl]
        split_ifs <;> rfl
      constructor
      · intro hwritten _
        refine ⟨fun _ => ⟨hbroken, halloc, fun hwrite => ?_⟩, fun hno => ?_⟩
        · exact (others_kept_iff h hdb hbroken).mp (hwritten hwrite).2
        · rw [hread] at hno
          cases hno
      · intro hsound hwrite
        have hkept := ((hsound hdb).1 hread).2.2 hwrite
        exact ⟨hself, (others_kept_iff h hdb hbroken).mpr hkept⟩
    rw [if_pos halloc]
    refine iff_of_false not_meets_unwritten ?_
    intro hsound
    exact halloc ((hsound hdb).1 hread).2.1
  rw [if_pos (hany.mpr hbroken)]
  refine iff_of_false not_meets_unwritten ?_
  intro hsound
  exact hbroken ((hsound hdb).1 hread).1

lemma meets_iff_of_unread (h : cbor.Lawful) (name : SvrName) (payload : List UInt8)
    (hthere : ¬ (db ≠ [] ∧ medium.readOk = true)) :
    Meets cbor db name payload (updateResourceInPS cbor medium db name payload) ↔
      Sound cbor medium db name payload := by
  have hdata : readDatabase medium db = none := if_neg hthere
  unfold updateResourceInPS
  rw [hdata]
  dsimp only
  by_cases hpayload : payload = []
  · have hnothing : writePayloadToPS medium.write db [] = (.invalidParam, db, false) :=
      if_pos rfl
    rw [if_pos hpayload, hnothing]
    refine iff_of_true (meets_refused (fun h => OCStackResult.noConfusion h)) ?_
    intro hdb
    refine ⟨fun hread => absurd ⟨hdb, hread⟩ hthere, fun _ hne => absurd hpayload hne⟩
  rw [if_neg hpayload]
  by_cases halloc : medium.allocOk = true
  · rw [if_neg (not_not.mpr halloc), h.encodeInto_eq _ _ (sizeBound_single name payload),
      meets_written_iff (h.encodeMap_ne_nil _)]
    have hself : readResource cbor (cbor.encodeMap [(name.json, payload)]) name
        = if payload = [] then none else some payload := by
      rw [readResource_encodeMap h, if_neg hpayload, find?_cons, beq_self_eq_true]
      rfl
    have hothers : ∀ n, n ≠ name →
        readResource cbor (cbor.encodeMap [(name.json, payload)]) n = none := by
      intro n hn
      have hbeq : ((name.json, payload).1 == n.json) = false :=
        beq_eq_false_iff_ne.mpr (fun heq => hn (json_inj.mp heq).symm)
      rw [readResource_encodeMap h, find?_cons, hbeq]
      rfl
    constructor
    · intro hwritten hdb
      refine ⟨fun hread => absurd ⟨hdb, hread⟩ hthere, fun _ _ _ hwrite n hn => ?_⟩
      rw [← (hwritten hwrite).2 n hn, hothers n hn]
    · intro hsound hwrite
      refine ⟨hself, fun n hn => ?_⟩
      rw [hothers n hn]
      by_cases hdb : db = []
      · rw [readResource, if_pos hdb]
      have hread : medium.readOk = false := by
        rw [← Bool.not_eq_true]
        exact fun hread => hthere ⟨hdb, hread⟩
      exact ((hsound hdb).2 hread hpayload halloc hwrite n hn).symm
  rw [if_pos halloc]
  refine iff_of_true (meets_refused (by decide)) ?_
  intro hdb
  exact ⟨fun hread => absurd ⟨hdb, hread⟩ hthere, fun _ _ hyes => absurd hyes halloc⟩

lemma updateResourceInPS_meets_iff (h : cbor.Lawful) (medium : Medium) (db : List UInt8)
    (name : SvrName) (payload : List UInt8) :
    Meets cbor db name payload (updateResourceInPS cbor medium db name payload) ↔
      Sound cbor medium db name payload := by
  by_cases hthere : db ≠ [] ∧ medium.readOk = true
  · exact meets_iff_of_read h name payload hthere.1 hthere.2
  · exact meets_iff_of_unread h name payload hthere

/-! ## Sequences of calls -/

structure UpdateCall where
  medium : Medium
  name : SvrName
  payload : List UInt8
  deriving DecidableEq

structure UpdateRecord where
  before : List UInt8
  call : UpdateCall
  outcome : UpdateOutcome

def updateStep (cbor : TinyCbor) (db : List UInt8) (call : UpdateCall) :
    List UInt8 × List UpdateRecord :=
  let outcome := updateResourceInPS cbor call.medium db call.name call.payload
  (outcome.database, [⟨db, call, outcome⟩])

/-- **The database is a key-value store exactly under `Sound`.** From every file
content, in every sequence of calls, each call meets what it owes if and only if
each call is sound for the file it finds. -/
theorem store_exact_iff (cbor : TinyCbor) (h : cbor.Lawful) (db : List UInt8)
    (calls : List UpdateCall) :
    (∀ r ∈ (Runs.run (updateStep cbor) db calls).2,
        Meets cbor r.before r.call.name r.call.payload r.outcome) ↔
      Runs.Along (updateStep cbor)
        (fun db call => Sound cbor call.medium db call.name call.payload) db calls := by
  refine Runs.run_log_iff (fun _ => True) ?_ trivial calls
  intro db call _
  refine ⟨?_, fun _ => trivial⟩
  rw [← updateResourceInPS_meets_iff h]
  constructor
  · intro hall
    exact hall ⟨db, call, _⟩ (mem_singleton_self _)
  · intro hmeets r hr
    rw [mem_singleton.mp hr]
    exact hmeets

def Medium.reliable : Medium :=
  { readOk := true, allocOk := true, crlLeft := [], write := .complete }

def sampleDatabase : List UInt8 := CborMap.encodeMap [("doxm", [1, 2]), ("cred", [3])]

theorem store_exact_iff_sample :
    TinyCbor.standard.Lawful
      ∧ ∀ r ∈ (Runs.run (updateStep TinyCbor.standard) sampleDatabase
            [⟨Medium.reliable, .acl, [7]⟩]).2,
          Meets TinyCbor.standard r.before r.call.name r.call.payload r.outcome := by
  refine ⟨TinyCbor.standard_lawful, ?_⟩
  rw [store_exact_iff TinyCbor.standard TinyCbor.standard_lawful]
  refine ⟨fun _ => ⟨fun _ => ⟨?_, rfl, fun _ => ⟨?_, ?_⟩⟩, ?_⟩, trivial⟩
  · intro n _
    cases n <;> decide
  · intro n _
    cases n <;> decide
  · intro hcrl
    exact absurd hcrl (by decide)
  · intro hread
    cases hread

theorem unwritten_success :
    ¬ ∀ r ∈ (Runs.run (updateStep TinyCbor.standard) (sampleDatabase.take 8)
          [⟨Medium.reliable, .acl, [7]⟩]).2,
        Meets TinyCbor.standard r.before r.call.name r.call.payload r.outcome := by
  intro hall
  have hmeets := hall _ (mem_singleton_self _)
  exact (hmeets.2 (by decide)).2 (by decide)

end

variable (cbor : TinyCbor)

/-! ## The two operations -/

def profileNames : List SvrName := [.acl, .cred, .pstat, .doxm, .sp]

def valueOf (doc : List UInt8) (name : SvrName) : List UInt8 :=
  match cbor.find doc name.json with
  | .value bytes => bytes
  | _ => []

def profileEntries (value : SvrName → List UInt8) : List (String × List UInt8) :=
  [(SvrName.acl.json, value .acl)]
    ++ (if value .cred = [] then [] else [(SvrName.cred.json, value .cred)])
    ++ [(SvrName.pstat.json, value .pstat), (SvrName.doxm.json, value .doxm),
        (SvrName.sp.json, value .sp)]

def profileSize (value : SvrName → List UInt8) : Nat :=
  (value .acl).length + (value .cred).length + (value .pstat).length + (value .doxm).length
    + (value .sp).length

def anyBroken (doc : List UInt8) : Bool :=
  profileNames.any (cbor.find doc ·.json = .broken)

/-- `CreateResetProfile`; `inner` is what the update meets that stores the
profile. Its result is not looked at. -/
def createResetProfile (outer inner : Medium) (db : List UInt8) : OCStackResult × List UInt8 :=
  match readDatabase outer db with
  | none => (.error, db)
  | some dbData =>
    if cbor.find dbData SvrName.resetPf.json ≠ .missing then (.ok, db)
    else if anyBroken cbor dbData then (.ok, db)
    else if ¬ outer.allocOk then (.ok, db)
    else
      let resetPfCbor := cbor.encodeInto
        (profileSize (valueOf cbor dbData) + cborEncodingSizeAddition)
        (profileEntries (valueOf cbor dbData))
      (.ok, (updateResourceInPS cbor inner db .resetPf resetPfCbor).database)

/-- The profile in a database; `NULL` when there is none. -/
def profileOf (db : List UInt8) : Option (List UInt8) :=
  match cbor.find db SvrName.resetPf.json with
  | .value bytes => some bytes
  | _ => none

def profileValue (profile : Option (List UInt8)) (name : SvrName) : List UInt8 :=
  match profile with
  | none => []
  | some doc => valueOf cbor doc name

def resetEntries (profile : Option (List UInt8)) : List (String × List UInt8) :=
  profileEntries (profileValue cbor profile) ++ [(SvrName.resetPf.json, profile.getD [])]

/-- `ResetSecureResourceInPS`, up to the database it writes; afterwards the
resources are initialised from it again. -/
def resetSecureResourceInPS (medium : Medium) (db : List UInt8) : OCStackResult × List UInt8 :=
  match readDatabase medium db with
  | none => (.error, db)
  | some dbData =>
    if cbor.find dbData SvrName.resetPf.json = .broken then (.ok, db)
    else
      let profile := profileOf cbor dbData
      if profile.any (anyBroken cbor) then (.ok, db)
      else if ¬ medium.allocOk then (.ok, db)
      else
        let outPayload := cbor.encodeInto
          (profileSize (profileValue cbor profile) + (profile.getD []).length
            + cborEncodingSizeAddition)
          (resetEntries cbor profile)
        let written := writePayloadToPS medium.write db outPayload
        (written.1, written.2.1)

variable {cbor}

lemma sizeBound_profile (value : SvrName → List UInt8) :
    CborMap.sizeBound (profileEntries value) ≤ profileSize value + 127 := by
  have hacl := length_keyBytes_json .acl
  have hcred := length_keyBytes_json .cred
  have hpstat := length_keyBytes_json .pstat
  have hdoxm := length_keyBytes_json .doxm
  have hsp := length_keyBytes_json .sp
  rw [CborMap.sizeBound, profileEntries, profileSize, map_append, map_append,
    sum_append, sum_append]
  split_ifs <;> simp only [map_cons, map_nil, sum_cons, sum_nil] <;> omega

lemma sizeBound_resetEntries (profile : Option (List UInt8)) :
    CborMap.sizeBound (resetEntries cbor profile)
      ≤ profileSize (profileValue cbor profile) + (profile.getD []).length
        + cborEncodingSizeAddition := by
  have hprofile := sizeBound_profile (profileValue cbor profile)
  have hkey := length_keyBytes_json .resetPf
  rw [CborMap.sizeBound] at hprofile
  rw [CborMap.sizeBound, resetEntries, map_append, sum_append, map_singleton,
    sum_singleton, cborEncodingSizeAddition]
  dsimp only
  omega

variable {n : SvrName}

lemma find?_profileEntries (value : SvrName → List UInt8) (hn : n ∈ profileNames) :
    (profileEntries value).find? (·.1 == n.json)
      = if n = .cred ∧ value .cred = [] then none else some (n.json, value n) := by
  by_cases hcred : value .cred = []
  · simp only [profileNames, mem_cons, not_mem_nil, or_false] at hn
    rcases hn with rfl | rfl | rfl | rfl | rfl <;> simp [profileEntries, hcred, SvrName.json]
  simp only [profileNames, mem_cons, not_mem_nil, or_false] at hn
  rcases hn with rfl | rfl | rfl | rfl | rfl <;> simp [profileEntries, hcred, SvrName.json]

lemma find?_profileEntries_resetPf (value : SvrName → List UInt8) :
    (profileEntries value).find? (·.1 == SvrName.resetPf.json) = none := by
  by_cases hcred : value .cred = [] <;> simp [profileEntries, hcred, SvrName.json]

lemma valueOf_profile (h : cbor.Lawful) (value : SvrName → List UInt8) (hn : n ∈ profileNames) :
    valueOf cbor (cbor.encodeMap (profileEntries value)) n = value n := by
  rw [valueOf, h.find_encodeMap, find?_profileEntries value hn]
  split_ifs with hempty
  · rw [hempty.1, hempty.2]
  · rfl

lemma anyBroken_profile (h : cbor.Lawful) (value : SvrName → List UInt8) :
    anyBroken cbor (cbor.encodeMap (profileEntries value)) = false := by
  rw [anyBroken, any_eq_false]
  intro n hn
  rw [h.find_encodeMap, find?_profileEntries value hn]
  split_ifs <;> simp

/-! ## The profile through a history -/

def HoldsProfile (cbor : TinyCbor) (profile db : List UInt8) : Prop :=
  db ≠ [] ∧ cbor.find db SvrName.resetPf.json = .value profile

/-- A call of the history: an update of a resource other than the profile, or a
further `CreateResetProfile`. -/
inductive ProfileCall
  | update (medium : Medium) (name : SvrName) (payload : List UInt8) (other : name ≠ .resetPf)
  | create (outer inner : Medium)

def profileStep (cbor : TinyCbor) (db : List UInt8) : ProfileCall → List UInt8 × List Unit
  | .update medium name payload _ => ((updateResourceInPS cbor medium db name payload).database, [])
  | .create outer inner => ((createResetProfile cbor outer inner db).2, [])

/-- An update that does not write a file it could not read, and does not stop
in the middle of a write. -/
def Steady : ProfileCall → Prop
  | .update medium _ payload _ =>
    (∀ n, medium.write ≠ .short n)
      ∧ (medium.readOk = true ∨ payload = [] ∨ medium.allocOk = false ∨ medium.write = .openFailed)
  | .create _ _ => True

variable {db : List UInt8}

lemma writePayloadToPS_database {write : WriteOutcome} {out : List UInt8}
    (hshort : ∀ n, write ≠ .short n) :
    (writePayloadToPS write db out).2.1 = db
      ∨ (write = .complete ∧ (writePayloadToPS write db out).2.1 = out) := by
  unfold writePayloadToPS
  split_ifs
  · exact .inl rfl
  · cases write with
    | openFailed => exact .inl rfl
    | short n => exact absurd rfl (hshort n)
    | complete => exact .inr ⟨rfl, rfl⟩

variable {profile : List UInt8}

lemma HoldsProfile.update (h : cbor.Lawful) (hne : profile ≠ [])
    (hholds : HoldsProfile cbor profile db) {medium : Medium} {name : SvrName}
    {payload : List UInt8} (hother : name ≠ .resetPf)
    (hsteady : Steady (.update medium name payload hother)) :
    HoldsProfile cbor profile (updateResourceInPS cbor medium db name payload).database := by
  obtain ⟨hshort, hreads⟩ := hsteady
  by_cases hread : medium.readOk = true
  · have hdata : readDatabase medium db = some db := if_pos ⟨hholds.1, hread⟩
    unfold updateResourceInPS
    rw [hdata]
    dsimp only
    split_ifs
    · exact hholds
    · -- the new file holds a copy of the profile
      rw [h.encodeInto_eq _ _ (sizeBound_newEntries ..)]
      rcases writePayloadToPS_database hshort with hsame | ⟨-, hnew⟩
      · rw [hsame]
        exact hholds
      rw [hnew]
      refine ⟨h.encodeMap_ne_nil _, ?_⟩
      have hcopy : copyOf cbor medium db .resetPf = profile := by
        rw [copyOf, hholds.2]
      rw [h.find_encodeMap, find?_newEntries, if_neg (hother ·.symm), hcopy, if_neg hne]
    · exact hholds
  have hdata : readDatabase medium db = none := if_neg (hread ·.2)
  unfold updateResourceInPS
  rw [hdata]
  dsimp only
  split_ifs with hpayload halloc
  · simp only [writePayloadToPS, if_true]
    exact hholds
  · rcases hreads with hyes | hyes | hyes | hyes
    · exact absurd hyes hread
    · exact absurd hyes hpayload
    · rw [hyes] at halloc
      cases halloc
    · rw [hyes]
      unfold writePayloadToPS
      split_ifs <;> exact hholds
  · exact hholds

lemma HoldsProfile.create (hholds : HoldsProfile cbor profile db) (outer inner : Medium) :
    HoldsProfile cbor profile (createResetProfile cbor outer inner db).2 := by
  unfold createResetProfile readDatabase
  by_cases hread : outer.readOk = true
  · have hfound : cbor.find db SvrName.resetPf.json ≠ .missing := by
      rw [hholds.2]
      exact fun heq => Found.noConfusion heq
    simp only [hholds.1, hread, ne_eq, not_false_eq_true, and_self, if_true, hfound]
    exact hholds
  simp only [hread, Bool.false_eq_true, and_false, if_false]
  exact hholds

lemma HoldsProfile.step (h : cbor.Lawful) (hne : profile ≠ [])
    (hholds : HoldsProfile cbor profile db) {call : ProfileCall} (hsteady : Steady call) :
    HoldsProfile cbor profile (profileStep cbor db call).1 := by
  cases call with
  | update medium name payload hother => exact hholds.update h hne hother hsteady
  | create outer inner => exact hholds.create outer inner

/-! ## Creation and reset -/

/-- What the first `CreateResetProfile` needs: a file that can be read, without a profile and
nothing cut off, both buffers, and an update that writes. -/
structure Creates (cbor : TinyCbor) (outer inner : Medium) (db : List UInt8) : Prop where
  there : db ≠ []
  outerRead : outer.readOk = true
  outerAlloc : outer.allocOk = true
  noProfile : cbor.find db SvrName.resetPf.json = .missing
  notBroken : ∀ n : SvrName, n ≠ .crl → cbor.find db n.json ≠ .broken
  innerRead : inner.readOk = true
  innerAlloc : inner.allocOk = true
  innerWrite : inner.write = .complete

def profileBytes (cbor : TinyCbor) (db : List UInt8) : List UInt8 :=
  cbor.encodeMap (profileEntries (valueOf cbor db))

lemma Creates.holdsProfile (h : cbor.Lawful) {outer inner : Medium}
    (hcreates : Creates cbor outer inner db) :
    (createResetProfile cbor outer inner db).1 = .ok
      ∧ HoldsProfile cbor (profileBytes cbor db) (createResetProfile cbor outer inner db).2 := by
  have hdata : readDatabase outer db = some db := if_pos ⟨hcreates.there, hcreates.outerRead⟩
  have hinner : readDatabase inner db = some db := if_pos ⟨hcreates.there, hcreates.innerRead⟩
  have hbroken : anyBroken cbor db = false := by
    rw [anyBroken, any_eq_false]
    intro n hn
    rw [decide_eq_true_eq]
    refine hcreates.notBroken n ?_
    rintro rfl
    exact absurd hn (by decide)
  have hany : ¬ svrNames.any (fun n => n ≠ .crl ∧ cbor.find db n.json = .broken) = true := by
    rw [any_eq_true]
    rintro ⟨n, -, hn⟩
    rw [decide_eq_true_eq] at hn
    exact hcreates.notBroken n hn.1 hn.2
  have hprofile : cbor.encodeInto (profileSize (valueOf cbor db) + cborEncodingSizeAddition)
      (profileEntries (valueOf cbor db)) = profileBytes cbor db := by
    apply h.encodeInto_eq
    have hbound := sizeBound_profile (valueOf cbor db)
    rw [cborEncodingSizeAddition]
    omega
  unfold createResetProfile
  rw [hdata]
  dsimp only
  rw [if_neg (not_not.mpr hcreates.noProfile), if_neg (by rw [hbroken]; exact Bool.false_ne_true),
    if_neg (not_not.mpr hcreates.outerAlloc), hprofile]
  refine ⟨rfl, ?_⟩
  unfold updateResourceInPS
  rw [hinner]
  dsimp only
  rw [if_neg hany, if_neg (not_not.mpr hcreates.innerAlloc),
    h.encodeInto_eq _ _ (sizeBound_newEntries ..), hcreates.innerWrite]
  simp only [writePayloadToPS, if_neg (h.encodeMap_ne_nil _)]
  refine ⟨h.encodeMap_ne_nil _, ?_⟩
  have hne : profileBytes cbor db ≠ [] := h.encodeMap_ne_nil _
  rw [h.find_encodeMap, find?_newEntries, if_pos rfl, if_neg hne]

structure Resets (medium : Medium) : Prop where
  read : medium.readOk = true
  alloc : medium.allocOk = true
  write : medium.write = .complete

lemma reset_of_holdsProfile (h : cbor.Lawful) {value : SvrName → List UInt8}
    (hholds : HoldsProfile cbor (cbor.encodeMap (profileEntries value)) db) {medium : Medium}
    (hresets : Resets medium) :
    resetSecureResourceInPS cbor medium db
      = (.ok, cbor.encodeMap
          (resetEntries cbor (some (cbor.encodeMap (profileEntries value))))) := by
  have hdata : readDatabase medium db = some db := if_pos ⟨hholds.1, hresets.read⟩
  have hprofile : profileOf cbor db = some (cbor.encodeMap (profileEntries value)) := by
    rw [profileOf, hholds.2]
  have hfound : cbor.find db SvrName.resetPf.json ≠ .broken := by
    rw [hholds.2]
    exact fun heq => Found.noConfusion heq
  unfold resetSecureResourceInPS
  rw [hdata]
  dsimp only
  rw [if_neg hfound, hprofile]
  have hany : ¬ (some (cbor.encodeMap (profileEntries value))).any (anyBroken cbor) = true := by
    rw [Option.any_some, anyBroken_profile h]
    simp
  rw [if_neg hany, if_neg (not_not.mpr hresets.alloc),
    h.encodeInto_eq _ _ (sizeBound_resetEntries ..), hresets.write]
  simp [writePayloadToPS, if_neg (h.encodeMap_ne_nil _)]

lemma readResource_reset (h : cbor.Lawful) (value : SvrName → List UInt8) :
    (∀ n ∈ profileNames, readResource cbor (cbor.encodeMap
        (resetEntries cbor (some (cbor.encodeMap (profileEntries value))))) n
      = if n = .cred ∧ value .cred = [] then none else some (value n))
    ∧ readResource cbor (cbor.encodeMap
        (resetEntries cbor (some (cbor.encodeMap (profileEntries value))))) .resetPf
      = some (cbor.encodeMap (profileEntries value)) := by
  constructor
  · intro n hn
    have hcred : SvrName.cred ∈ profileNames := by decide
    have hnot : n ≠ .resetPf := by
      rintro rfl
      exact absurd hn (by decide)
    have hbeq :
        ((SvrName.resetPf.json, cbor.encodeMap (profileEntries value)).1 == n.json) = false :=
      beq_eq_false_iff_ne.mpr (fun heq => hnot (json_inj.mp heq).symm)
    have hsame : ∀ m ∈ profileNames,
        profileValue cbor (some (cbor.encodeMap (profileEntries value))) m = value m :=
      fun m hm => valueOf_profile h value hm
    rw [readResource_encodeMap h, resetEntries, find?_append, find?_profileEntries _ hn]
    simp only [hsame n hn, hsame .cred hcred, Option.getD_some, find?_cons, hbeq]
    split_ifs <;> rfl
  · rw [readResource_encodeMap h, resetEntries, find?_append, find?_profileEntries_resetPf,
      Option.none_or, Option.getD_some, find?_cons, beq_self_eq_true]
    rfl

lemma valueOf_eq (hdb : db ≠ []) (n : SvrName) :
    valueOf cbor db n = (readResource cbor db n).getD [] := by
  rw [valueOf, readResource, if_neg hdb]
  cases cbor.find db n.json <;> rfl

lemma find_of_readResource {bytes : List UInt8} (hdb : db ≠ [])
    (hread : readResource cbor db n = some bytes) : cbor.find db n.json = .value bytes := by
  rw [readResource, if_neg hdb] at hread
  cases hfind : cbor.find db n.json with
  | value b =>
    rw [hfind, Option.some.injEq] at hread
    rw [hread]
  | missing | broken =>
    rw [hfind] at hread
    cases hread

def factoryDatabase : List UInt8 :=
  CborMap.encodeMap [("acl", [1]), ("pstat", [2]), ("doxm", [3]), ("sp", [4])]

def laterCalls : List ProfileCall :=
  [ .update Medium.reliable .cred [9] (by decide), .create Medium.reliable Medium.reliable,
    .update Medium.reliable .acl [8, 8] (by decide) ]

end Iochibity.Sec
