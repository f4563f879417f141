/-
`rolesresource.c`, the payloads of `/oic/sec/roles`.
-/
import Iochibity.Lib.CborCursor
import Iochibity.Sec.CredCodec
import Iochibity.Sec.Roles

namespace Iochibity.Sec.RolesCodec

open CborScan
open CborCursor (Stop andThen)

section

def encodeText (s : String) : Item := .text (some (cString s))

def encodeMap (entries : List (String × Item)) : Item :=
  .map (entries.flatMap (fun e => [encodeText e.1, e.2]))

/-- `SerializeEncodingToCbor`, the value. -/
def encodePublicData (certificate : OicSecKey) : Option Item :=
  (encodingValueToString certificate.encoding).map (fun name =>
    encodeMap [("encoding", encodeText name),
      ("data", if certificate.encoding = .der ∨ certificate.encoding = .raw
        then .bytes (some (certificate.data.getD []))
        else .text (some (certificate.data.getD [])))])

def encodeChain (chain : RoleCertChain) : Option Item :=
  (encodePublicData chain.certificate).map (fun publicData =>
    encodeMap [("credid", .uint chain.credId.toUInt64),
      ("subjectuuid", encodeText "00000000-0000-0000-0000-000000000000"),
      ("publicdata", publicData),
      ("credtype", .uint signedAsymmetricKey.toUInt64)])

def rolesPayload (roles : List RoleCertChain) : Option Item :=
  (roles.mapM encodeChain).map (fun chains =>
    encodeMap [("roles", .array chains), ("rt", .array [encodeText "oic.r.roles"]),
      ("if", .array [encodeText "oic.if.baseline"])])

/-- `RolesToCBORPayload` with its calls of itself, at most so many (`none` for more); `encodedSize`
is what tinycbor counts. -/
def rolesToCBORPayload (encodedSize : Item → Nat) (roles : List RoleCertChain) :
    Nat → Nat → Option (Option Item)
  | 0, _ => none
  | calls + 1, cborSize =>
    let cborLen := if cborSize = 0 then cborSizeDefault else cborSize
    match rolesPayload roles with
    -- an encoding that is not known, met at the latest when the buffer is large enough
    | none => some none
    | some payload =>
      if encodedSize payload ≤ cborLen then some (some payload)
      else rolesToCBORPayload encodedSize roles calls (2 * cborLen)

/-! ## The decoder -/

/-- `strcmp` of a key with a name. -/
def named (entry : Entry) (name : String) : Bool :=
  entry.1.takeWhile (· ≠ 0) = cString name

def dataEntry (key : OicSecKey) (entry : Entry) : OicSecKey × Option (Stop Unit) :=
  if named entry "data" then
    match entry.2 with
    | some (.bytes (some data)) => ({ key with data := some data }, none)
    | some (.text (some data)) => ({ key with data := some data }, none)
    | _ => (key, some .error)
  else if named entry "encoding" then
    match entry.2 with
    | some (.text (some name)) =>
      ({ key with encoding := encodingOfName (name.takeWhile (· ≠ 0)) }, none)
    | some (.text none) => (key, some .error)
    | _ => (key, some .assertion)
  else (key, none)

def deserializeEncoding (key : OicSecKey) (value : Option Item) :
    OicSecKey × Option (Stop Unit) :=
  enter value key (fun items => run dataEntry key (entryChecks items))

def uint32Max : Nat := 2 ^ 32 - 1

def roleEntry (chain : RoleCertChain) (entry : Entry) : RoleCertChain × Option (Stop Unit) :=
  if named entry "credid" then
    match entry.2 with
    | some (.uint credId64) =>
      if uint32Max < credId64.toNat then (chain, some .error)
      else ({ chain with credId := credId64.toUInt32 }, none)
    | _ => (chain, some .assertion)
  else if named entry "publicdata" then
    let (certificate, stop) := deserializeEncoding chain.certificate entry.2
    ({ chain with certificate := certificate }, stop)
  else if named entry "credtype" then
    match entry.2 with
    | some (.uint credType) =>
      -- the cast to the enumeration leaves 32 bits, and `goto exit` no error
      if credType.toUInt32 = signedAsymmetricKey then (chain, none)
      else (chain, some (.ending ()))
    | _ => (chain, some .assertion)
  else (chain, none)

/-- A chain as `OICCalloc` gives it. -/
def emptyChain : RoleCertChain := ⟨0, OicSecKey.zero⟩

def readRole (items : List Item) : RoleCertChain × Option (Stop Unit) :=
  andThen (run roleEntry emptyChain (entryChecks items)) fun chain =>
    -- `goto exit` with no error once more
    if chain.certificate.data = none then (chain, some (.ending ())) else (chain, none)

/-- An item of an array of roles; `headRoleCertChain` has to be null where the first one is. -/
def roleArrayItem (headRoleCertChain chains : List RoleCertChain) (item : Item) :
    List RoleCertChain × Option (Stop Unit) :=
  enter (some item) chains (fun items =>
    if chains = [] ∧ headRoleCertChain ≠ [] then (chains, some .assertion)
    else
      let (chain, stop) := readRole items
      (chains ++ [chain], stop))

def rootEntry (headRoleCertChain : List RoleCertChain) (entry : Entry) :
    List RoleCertChain × Option (Stop Unit) :=
  if named entry "roles" then
    enter entry.2 headRoleCertChain (fun items =>
      let (chains, stop) := run (roleArrayItem headRoleCertChain) [] (itemChecks items)
      (if chains = [] then headRoleCertChain else chains, stop))
  else (headRoleCertChain, none)

/-- How the decoder ends. With `OC_STACK_OK` it sets the list of the caller, or leaves it. -/
inductive RolesDecoded
  | ok (roleEntries : Option (List RoleCertChain))
  | error
  | aborts

/-- What the end of the loop comes to: at `exit` only `cborFindResult` counts. -/
def decodedOf : List RoleCertChain × Option (Stop Unit) → RolesDecoded
  | (chains, none) => .ok (some chains)
  | (_, some (.ending _)) => .ok none
  | (_, some .error) => .error
  | (_, some .assertion) => .aborts

def cborPayloadToRoles (payload : Item) : RolesDecoded :=
  match payload.content with
  | none => .error
  | some items =>
    if startsMalformed items then .error
    else decodedOf (run rootEntry [] (entryChecks items))

open Option (getD_some isSome_iff_ne_none)
open List
open Bool (false_eq_true)

/-! ## What a payload says -/

def rolesOf (payload : Item) : List Item :=
  (entriesOf (payload.content.getD [])).flatMap (fun entry =>
    if named entry "roles" then (entry.2.bind Item.content).getD [] else [])

def keyEntriesOf (entry : Entry) : List Entry :=
  if named entry "publicdata" then entriesOf ((entry.2.bind Item.content).getD []) else []

def dataValue (entry : Entry) : Option (List UInt8) :=
  if named entry "data" then
    match entry.2 with
    | some (.bytes data) => data
    | some (.text data) => data
    | _ => none
  else none

def encodingValue (entry : Entry) : Option OicEncodingType :=
  if named entry "encoding" then
    match entry.2 with
    | some (.text (some name)) => some (encodingOfName (name.takeWhile (· ≠ 0)))
    | _ => none
  else none

/-- The number under `"credid"`. -/
def credIdValue (entry : Entry) : Option UInt32 :=
  if named entry "credid" then
    match entry.2 with
    | some (.uint n) => some n.toUInt32
    | _ => none
  else none

def lastOf {α : Type} (value : Entry → Option α) (entries : List Entry) : Option α :=
  (entries.filterMap value).getLast?

def chainOf (entries : List Entry) : RoleCertChain :=
  { credId := (lastOf credIdValue entries).getD 0
    certificate :=
      { data := lastOf dataValue (entries.flatMap keyEntriesOf)
        encoding := (lastOf encodingValue (entries.flatMap keyEntriesOf)).getD .unknown } }

structure GoodRole (entries : List Entry) : Prop where
  publicData : (lastOf dataValue (entries.flatMap keyEntriesOf)).isSome = true
  credType : ∀ entry ∈ entries, named entry "credtype" = true →
    entry.2 = some (.uint signedAsymmetricKey.toUInt64)
  credId : ∀ entry ∈ entries, named entry "credid" = true →
    ∃ n, entry.2 = some (.uint n) ∧ n.toNat ≤ uint32Max

def entriesOfItem (item : Item) : List Entry := entriesOf (item.content.getD [])

/-- **All or error.** With `OC_STACK_OK` the payload is well formed, its roles are good, and the
caller gets a chain for each of them. -/
def AllOrError (payload : Item) : Prop :=
  match cborPayloadToRoles payload with
  | .ok (some chains) => payload.WellFormed
      ∧ (∀ role ∈ rolesOf payload, role.content.isSome = true ∧ GoodRole (entriesOfItem role))
      ∧ chains = (rolesOf payload).map (fun role => chainOf (entriesOfItem role))
  | .ok none => False
  | .error => True
  | .aborts => False

variable {entry : Entry}

lemma named_ne {name name' : String} (h : named entry name = true)
    (hne : name ≠ name') : named entry name' = false := by
  rw [named, decide_eq_true_eq] at h
  rw [named, decide_eq_false_iff_not, h]
  exact fun heq => hne (cString_inj.mp heq)

/-! ## Loops without state -/

def Proper (stop : Option (Stop Unit)) : Prop := stop = none ∨ stop = some .error

lemma proper_iff_not {stop : Option (Stop Unit)} :
    Proper stop ↔ stop ≠ some .assertion ∧ stop ≠ some (.ending ()) := by
  rw [Proper]
  rcases stop with _ | _ | _ | _ <;> simp

section Loops

variable {α σ : Type} {body : σ → α → σ × Option (Stop Unit)} {verdict : α → Option (Stop Unit)}

lemma run_proper_iff (hverdict : ∀ s a, (body s a).2 = verdict a) (checks : List (Check α))
    (s : σ) :
    Proper (run body s checks).2
      ↔ ∀ a ∈ reached (fun a => (verdict a).isSome) checks, Proper (verdict a) := by
  have hassert := run_stop_iff hverdict (show Stop.assertion ≠ .error by simp) checks s
  have hending := run_stop_iff hverdict (show Stop.ending () ≠ .error by simp) checks s
  rw [proper_iff_not, Ne, Ne, hassert, hending]
  simp only [proper_iff_not]
  constructor
  · intro h a ha
    exact ⟨fun hv => h.1 ⟨a, ha, hv⟩, fun hv => h.2 ⟨a, ha, hv⟩⟩
  · intro h
    refine ⟨?_, ?_⟩
    · rintro ⟨a, ha, hv⟩
      exact (h a ha).1 hv
    · rintro ⟨a, ha, hv⟩
      exact (h a ha).2 hv

variable {loop : List Item → σ × Option (Stop Unit)}

lemma enter_proper_iff {value : Option Item} {s : σ} :
    Proper (enter value s loop).2 ↔ ∃ items, value.bind Item.content = some items
        ∧ (startsMalformed items = true ∨ Proper (loop items).2) := by
  rw [enter]
  cases value.bind Item.content with
  | none => simp [Proper]
  | some items =>
    simp only [Option.some.injEq, exists_eq_left']
    by_cases hmal : startsMalformed items = true
    · simp [hmal, Proper]
    · simp [hmal]

lemma enter_end_iff {value : Option Item} {s : σ} :
    (enter value s loop).2 = none
      ↔ ∃ items, value.bind Item.content = some items ∧ startsMalformed items = false
        ∧ (loop items).2 = none := by
  rw [enter]
  cases value.bind Item.content with
  | none => simp
  | some items =>
    simp only [Option.some.injEq, exists_eq_left']
    by_cases hmal : startsMalformed items = true
    · simp [hmal]
    · simp [hmal]

end Loops

/-! ## The data of a key -/

def dataVerdict (entry : Entry) : Option (Stop Unit) := (dataEntry OicSecKey.zero entry).2

lemma dataEntry_verdict (key : OicSecKey) (entry : Entry) :
    (dataEntry key entry).2 = dataVerdict entry := by
  rw [dataVerdict, dataEntry, dataEntry]
  split_ifs
  · split <;> rfl
  · split <;> rfl
  · rfl

def dataUpdate (key : OicSecKey) (entry : Entry) : OicSecKey :=
  ⟨(dataValue entry).or key.data, (encodingValue entry).getD key.encoding⟩

variable {key : OicSecKey}

lemma dataEntry_update (h : (dataEntry key entry).2 = none) :
    (dataEntry key entry).1 = dataUpdate key entry := by
  rw [dataEntry] at h ⊢
  rw [dataUpdate, dataValue, encodingValue]
  by_cases hdata : named entry "data" = true
  · have hother := named_ne hdata (show "data" ≠ "encoding" by decide)
    simp only [hdata, if_true, hother, false_eq_true, if_false] at h ⊢
    split at h <;> simp_all
  simp only [hdata, if_false, false_eq_true] at h ⊢
  by_cases henc : named entry "encoding" = true
  · simp only [henc, if_true] at h ⊢
    split at h <;> simp_all
  · simp [henc]

lemma dataVerdict_proper_iff :
    Proper (dataVerdict entry)
      ↔ (named entry "encoding" = true → ∃ name, entry.2 = some (.text name)) := by
  rw [dataVerdict, dataEntry]
  by_cases hdata : named entry "data" = true
  · have hother := named_ne hdata (show "data" ≠ "encoding" by decide)
    simp only [hdata, if_true, hother, false_eq_true, false_implies, iff_true]
    split <;> simp [Proper]
  simp only [hdata, if_false, false_eq_true]
  by_cases henc : named entry "encoding" = true
  · simp only [henc, if_true, forall_const]
    rcases entry.2 with _ | item
    · simp [Proper]
    cases item with
    | text name => cases name <;> simp [Proper]
    | _ => simp [Proper]
  · simp [henc, Proper]

def keyVerdict (value : Option Item) : Option (Stop Unit) :=
  (deserializeEncoding OicSecKey.zero value).2

lemma deserializeEncoding_verdict (key : OicSecKey) (value : Option Item) :
    (deserializeEncoding key value).2 = keyVerdict value := by
  refine enter_congr (fun items => run_congr (fun key key' entry => ?_) _ _ _)
  rw [dataEntry_verdict, dataEntry_verdict]

structure ReadsKey (items : List Item) : Prop where
  start : startsMalformed items = false
  moves : moves (entryChecks items) = true
  fine : ∀ entry ∈ entriesOf items, dataVerdict entry = none

variable {value : Option Item}

lemma keyVerdict_end (h : keyVerdict value = none) :
    ∃ items, value.bind Item.content = some items ∧ ReadsKey items := by
  rw [keyVerdict, deserializeEncoding, enter_end_iff] at h
  obtain ⟨items, hcontent, hstart, hrun⟩ := h
  rw [run_end_iff dataEntry_verdict] at hrun
  have hlooks := (entryChecks_moves hrun.1).1
  exact ⟨items, hcontent, hstart, hrun.1, hlooks ▸ hrun.2⟩

lemma deserializeEncoding_update (h : keyVerdict value = none) :
    (deserializeEncoding key value).1
      = (entriesOf ((value.bind Item.content).getD [])).foldl dataUpdate key := by
  have hend := h
  rw [← deserializeEncoding_verdict key] at hend
  obtain ⟨items, hcontent, hreads⟩ := keyVerdict_end h
  rw [deserializeEncoding, enter, hcontent] at hend ⊢
  simp only [hreads.start, false_eq_true, if_false] at hend ⊢
  rw [run_result (fun _ _ h => dataEntry_update h) _ _ hend, (entryChecks_moves hreads.moves).1]
  rfl

lemma keyVerdict_proper_iff :
    Proper (keyVerdict value) ↔ ∃ items, value.bind Item.content = some items
        ∧ (startsMalformed items = true
          ∨ ∀ entry ∈ reached (fun entry => (dataVerdict entry).isSome) (entryChecks items),
            named entry "encoding" = true → ∃ name, entry.2 = some (.text name)) := by
  rw [keyVerdict, deserializeEncoding, enter_proper_iff]
  simp [run_proper_iff dataEntry_verdict, dataVerdict_proper_iff]

/-! ## The entries of a role -/

def roleVerdict (entry : Entry) : Option (Stop Unit) := (roleEntry emptyChain entry).2

lemma roleEntry_verdict (chain : RoleCertChain) (entry : Entry) :
    (roleEntry chain entry).2 = roleVerdict entry := by
  rw [roleVerdict, roleEntry, roleEntry]
  split_ifs
  · split
    · split_ifs <;> rfl
    · rfl
  · exact (deserializeEncoding_verdict _ _).trans (deserializeEncoding_verdict _ _).symm
  · split
    · split_ifs <;> rfl
    · rfl
  · rfl

def roleUpdate (chain : RoleCertChain) (entry : Entry) : RoleCertChain :=
  ⟨(credIdValue entry).getD chain.credId, (keyEntriesOf entry).foldl dataUpdate chain.certificate⟩

lemma roleEntry_update {chain : RoleCertChain} (h : (roleEntry chain entry).2 = none) :
    (roleEntry chain entry).1 = roleUpdate chain entry := by
  rw [roleEntry] at h ⊢
  rw [roleUpdate, credIdValue, keyEntriesOf]
  by_cases hid : named entry "credid" = true
  · have hother := named_ne hid (show "credid" ≠ "publicdata" by decide)
    simp only [hid, if_true, hother, false_eq_true, if_false, foldl_nil] at h ⊢
    split at h
    · rename_i n heq
      split_ifs at h with hbig
      · simp [hbig]
    · cases h
  simp only [hid, if_false, false_eq_true, Option.getD_none] at h ⊢
  by_cases hpublic : named entry "publicdata" = true
  · simp only [hpublic, if_true] at h ⊢
    rw [deserializeEncoding_verdict] at h
    rw [deserializeEncoding_update h]
  simp only [hpublic, if_false, false_eq_true, foldl_nil] at h ⊢
  split_ifs at h ⊢
  · split at h
    · split_ifs at h with htype
      simp [htype]
    · cases h
  · rfl

/-- What the decoder asks of an entry of a role, not to end in a wrong way: a number for a
credential id; for public data a container, in which no encoding that is got to is anything but a
text; for a type a number with the right low bits. -/
structure CarefulEntry (entry : Entry) : Prop where
  credId : named entry "credid" = true → ∃ n, entry.2 = some (.uint n)
  publicData : named entry "publicdata" = true → ∃ items, entry.2.bind Item.content = some items
    ∧ (startsMalformed items = true
      ∨ ∀ e ∈ reached (fun e => (dataVerdict e).isSome) (entryChecks items),
        named e "encoding" = true → ∃ name, e.2 = some (.text name))
  credType : named entry "credtype" = true →
    ∃ n, entry.2 = some (.uint n) ∧ n.toUInt32 = signedAsymmetricKey

lemma roleVerdict_proper_iff :
    Proper (roleVerdict entry) ↔ CarefulEntry entry := by
  rw [roleVerdict, roleEntry]
  by_cases hid : named entry "credid" = true
  · have hpublic := named_ne hid (show "credid" ≠ "publicdata" by decide)
    have htype := named_ne hid (show "credid" ≠ "credtype" by decide)
    have hcareful : CarefulEntry entry ↔ ∃ n, entry.2 = some (.uint n) :=
      ⟨fun h => h.credId hid, fun h => ⟨fun _ => h, by simp [hpublic], by simp [htype]⟩⟩
    rw [hcareful]
    simp only [hid, if_true]
    split
    · rename_i n heq
      simp only [heq, Option.some.injEq, Item.uint.injEq, exists_eq', iff_true]
      split_ifs <;> simp [Proper]
    rename_i hno
    simp only [Proper, reduceCtorEq, Option.some.injEq, or_self, false_iff]
    rintro ⟨n, hn⟩
    exact hno n hn
  by_cases hpublic : named entry "publicdata" = true
  · have htype := named_ne hpublic (show "publicdata" ≠ "credtype" by decide)
    have hcareful : CarefulEntry entry ↔ Proper (keyVerdict entry.2) := by
      rw [keyVerdict_proper_iff]
      exact ⟨fun h => h.publicData hpublic, fun h => ⟨by simp [hid], fun _ => h, by simp [htype]⟩⟩
    rw [hcareful]
    simp only [hid, hpublic, if_true, if_false, false_eq_true]
    rw [← deserializeEncoding_verdict emptyChain.certificate]
  simp only [hid, hpublic, if_false, false_eq_true]
  by_cases htype : named entry "credtype" = true
  · have hcareful : CarefulEntry entry
        ↔ ∃ n, entry.2 = some (.uint n) ∧ n.toUInt32 = signedAsymmetricKey :=
      ⟨fun h => h.credType htype, fun h => ⟨by simp [hid], by simp [hpublic], fun _ => h⟩⟩
    rw [hcareful]
    simp only [htype, if_true]
    split
    · rename_i n heq
      simp only [heq, Option.some.injEq, Item.uint.injEq, exists_eq_left']
      split_ifs with hsigned <;> simp [Proper, hsigned]
    rename_i hno
    simp only [Proper, reduceCtorEq, Option.some.injEq, or_self, false_iff]
    rintro ⟨n, hn, _⟩
    exact hno n hn
  simp only [htype, if_false, false_eq_true]
  have hcareful : CarefulEntry entry :=
    ⟨by simp [hid], by simp [hpublic], by simp [htype]⟩
  simp [Proper, hcareful]

/-! ## One role -/

lemma foldl_last {α : Type} (value : Entry → Option α) (entries : List Entry) (start : α) :
    entries.foldl (fun a entry => (value entry).getD a) start
      = (lastOf value entries).getD start := by
  induction entries generalizing start with
  | nil => rfl
  | cons entry rest ih =>
    rw [foldl_cons, ih, lastOf, lastOf, filterMap_cons]
    cases value entry with
    | none => rfl
    | some a =>
      cases hrest : rest.filterMap value with
      | nil => rfl
      | cons b l => simp [getLast?_cons]

lemma foldl_dataUpdate (entries : List Entry) (key : OicSecKey) :
    entries.foldl dataUpdate key
      = ⟨(lastOf dataValue entries).or key.data,
        (lastOf encodingValue entries).getD key.encoding⟩ := by
  have hparts : ∀ (entries : List Entry) (key : OicSecKey), entries.foldl dataUpdate key
      = ⟨entries.foldl (fun data entry => (dataValue entry).or data) key.data,
        entries.foldl (fun encoding entry => (encodingValue entry).getD encoding)
          key.encoding⟩ := by
    intro entries
    induction entries with
    | nil => exact fun _ => rfl
    | cons entry rest ih => exact fun key => ih (dataUpdate key entry)
  have hdata : entries.foldl (fun data entry => (dataValue entry).or data) key.data
      = (lastOf dataValue entries).or key.data := by
    have hsome : (fun (data : Option (List UInt8)) entry => (dataValue entry).or data)
        = fun data entry => ((dataValue entry).map some).getD data := by
      funext data entry
      cases dataValue entry <;> rfl
    rw [hsome, foldl_last, lastOf, lastOf]
    have hmap : entries.filterMap (fun entry => (dataValue entry).map some)
        = (entries.filterMap dataValue).map some := by
      rw [map_filterMap]
    rw [hmap, getLast?_map]
    cases (entries.filterMap dataValue).getLast? <;> rfl
  rw [hparts, hdata, foldl_last]

lemma foldl_roleUpdate (entries : List Entry) :
    entries.foldl roleUpdate emptyChain = chainOf entries := by
  have hparts : ∀ (entries : List Entry) (chain : RoleCertChain), entries.foldl roleUpdate chain
      = ⟨entries.foldl (fun credId entry => (credIdValue entry).getD credId) chain.credId,
        (entries.flatMap keyEntriesOf).foldl dataUpdate chain.certificate⟩ := by
    intro entries
    induction entries with
    | nil => exact fun _ => rfl
    | cons entry rest ih =>
      intro chain
      rw [foldl_cons, ih, flatMap_cons, foldl_append]
      rfl
  rw [hparts, foldl_last, foldl_dataUpdate, chainOf]
  simp [emptyChain, OicSecKey.zero]

structure ReadsRole (items : List Item) : Prop where
  moves : moves (entryChecks items) = true
  fine : ∀ entry ∈ entriesOf items, roleVerdict entry = none
  publicData : (lastOf dataValue ((entriesOf items).flatMap keyEntriesOf)).isSome = true

variable {items : List Item}

lemma run_roleEntry_end_iff :
    (run roleEntry emptyChain (entryChecks items)).2 = none
      ↔ moves (entryChecks items) = true ∧ ∀ entry ∈ entriesOf items, roleVerdict entry = none := by
  rw [run_end_iff roleEntry_verdict]
  constructor
  · rintro ⟨hmoves, hfine⟩
    exact ⟨hmoves, (entryChecks_moves hmoves).1 ▸ hfine⟩
  · rintro ⟨hmoves, hfine⟩
    exact ⟨hmoves, (entryChecks_moves hmoves).1.symm ▸ hfine⟩

lemma run_roleEntry_result (h : (run roleEntry emptyChain (entryChecks items)).2 = none) :
    (run roleEntry emptyChain (entryChecks items)).1 = chainOf (entriesOf items) := by
  have hmoves := (run_roleEntry_end_iff.mp h).1
  rw [run_result (fun _ _ h => roleEntry_update h) _ _ h, (entryChecks_moves hmoves).1,
    foldl_roleUpdate]

lemma readRole_end_iff : (readRole items).2 = none ↔ ReadsRole items := by
  rw [readRole, CborCursor.andThen]
  rcases hrun : (run roleEntry emptyChain (entryChecks items)).2 with _ | stop
  · have hresult := run_roleEntry_result hrun
    obtain ⟨hmoves, hfine⟩ := run_roleEntry_end_iff.mp hrun
    rw [hresult, chainOf]
    simp only
    constructor
    · intro h
      refine ⟨hmoves, hfine, ?_⟩
      split_ifs at h with hnone
      exact isSome_iff_ne_none.mpr hnone
    · intro h
      rw [if_neg (isSome_iff_ne_none.mp h.publicData)]
  simp only [reduceCtorEq, false_iff]
  intro h
  rw [run_roleEntry_end_iff.mpr ⟨h.moves, h.fine⟩] at hrun
  cases hrun

lemma readRole_result (h : (readRole items).2 = none) :
    (readRole items).1 = chainOf (entriesOf items) := by
  have hreads := readRole_end_iff.mp h
  have hend := run_roleEntry_end_iff.mpr ⟨hreads.moves, hreads.fine⟩
  have hpublic := hreads.publicData
  rw [readRole, CborCursor.andThen, hend, run_roleEntry_result hend]
  exact congrArg Prod.fst (if_neg (isSome_iff_ne_none.mp hpublic))

/-- A role at which the decoder does not end in a wrong way: no entry that it gets to makes it, and
if all are fine there are public data. -/
structure CarefulRole (items : List Item) : Prop where
  entries : ∀ entry ∈ reached (fun entry => (roleVerdict entry).isSome) (entryChecks items),
    CarefulEntry entry
  publicData : moves (entryChecks items) = true →
    (∀ entry ∈ entriesOf items, roleVerdict entry = none) →
    (lastOf dataValue ((entriesOf items).flatMap keyEntriesOf)).isSome = true

lemma readRole_proper_iff :
    Proper (readRole items).2 ↔ CarefulRole items := by
  have hloop := run_proper_iff roleEntry_verdict (entryChecks items) emptyChain
  simp only [roleVerdict_proper_iff] at hloop
  constructor
  · intro h
    have hproper : Proper (run roleEntry emptyChain (entryChecks items)).2 := by
      rw [readRole, CborCursor.andThen] at h
      rcases hrun : (run roleEntry emptyChain (entryChecks items)).2 with _ | stop
      · exact .inl rfl
      · rwa [hrun] at h
    refine ⟨hloop.mp hproper, fun hmoves hfine => ?_⟩
    have hend := run_roleEntry_end_iff.mpr ⟨hmoves, hfine⟩
    rw [readRole, CborCursor.andThen, hend, run_roleEntry_result hend, chainOf] at h
    simp only at h
    split_ifs at h with hnone
    · simp [Proper] at h
    · exact isSome_iff_ne_none.mpr hnone
  · intro h
    rcases hloop.mpr h.entries with hend | herror
    · obtain ⟨hmoves, hfine⟩ := run_roleEntry_end_iff.mp hend
      exact .inl (readRole_end_iff.mpr ⟨hmoves, hfine, h.publicData hmoves hfine⟩)
    right
    rw [readRole, CborCursor.andThen, herror]

/-! ## An array of roles -/

variable {head : List RoleCertChain}

lemma roleArrayItem_head {head' : List RoleCertChain} (h : head = [] ↔ head' = []) :
    roleArrayItem head = roleArrayItem head' := by
  funext chains item
  simp [roleArrayItem, Ne, h]

def itemVerdict (item : Item) : Option (Stop Unit) := (roleArrayItem [] [] item).2

lemma roleArrayItem_eq (chains : List RoleCertChain) (item : Item) :
    roleArrayItem [] chains item
      = enter (some item) chains (fun items =>
        (chains ++ [(readRole items).1], (readRole items).2)) := by
  simp [roleArrayItem]

lemma roleArrayItem_verdict (chains : List RoleCertChain) (item : Item) :
    (roleArrayItem [] chains item).2 = itemVerdict item := by
  rw [itemVerdict, roleArrayItem_eq, roleArrayItem_eq]
  exact enter_congr (fun _ => rfl)

variable {item : Item}

lemma itemVerdict_end_iff :
    itemVerdict item = none
      ↔ ∃ items, item.content = some items ∧ startsMalformed items = false ∧ ReadsRole items := by
  rw [itemVerdict, roleArrayItem_eq, enter_end_iff]
  simp [readRole_end_iff]

lemma itemVerdict_proper_iff :
    Proper (itemVerdict item) ↔ ∃ items, item.content = some items
        ∧ (startsMalformed items = true ∨ CarefulRole items) := by
  rw [itemVerdict, roleArrayItem_eq, enter_proper_iff]
  simp [readRole_proper_iff]

variable {chains : List RoleCertChain}

lemma roleArrayItem_update (h : (roleArrayItem [] chains item).2 = none) :
    (roleArrayItem [] chains item).1 = chains ++ [chainOf (entriesOfItem item)] := by
  rw [roleArrayItem_verdict] at h
  obtain ⟨items, hcontent, hstart, hreads⟩ := itemVerdict_end_iff.mp h
  rw [roleArrayItem_eq, enter, Option.bind_some, hcontent]
  simp only [hstart, false_eq_true, if_false, entriesOfItem, hcontent, getD_some]
  rw [readRole_result (readRole_end_iff.mpr hreads)]

lemma foldl_append_singleton {α β : Type} (f : α → β) (l : List α) (start : List β) :
    l.foldl (fun acc a => acc ++ [f a]) start = start ++ l.map f := by
  induction l generalizing start with
  | nil => simp
  | cons a l ih => rw [foldl_cons, ih, map_cons, append_assoc]; rfl

lemma firstArray_end_iff :
    (run (roleArrayItem []) [] (itemChecks items)).2 = none
      ↔ moves (itemChecks items) = true ∧ ∀ item ∈ items, itemVerdict item = none := by
  rw [run_end_iff roleArrayItem_verdict]
  constructor
  · rintro ⟨hmoves, hfine⟩
    exact ⟨hmoves, (itemChecks_moves hmoves).1 ▸ hfine⟩
  · rintro ⟨hmoves, hfine⟩
    exact ⟨hmoves, (itemChecks_moves hmoves).1.symm ▸ hfine⟩

lemma firstArray_result (h : (run (roleArrayItem []) [] (itemChecks items)).2 = none) :
    (run (roleArrayItem []) [] (itemChecks items)).1
      = items.map (fun item => chainOf (entriesOfItem item)) := by
  have hmoves := (firstArray_end_iff.mp h).1
  rw [run_result (fun _ _ h => roleArrayItem_update h) _ _ h, (itemChecks_moves hmoves).1,
    foldl_append_singleton, nil_append]

lemma laterArray_verdict (hhead : head ≠ []) (item : Item) (rest : List Item) :
    (run (roleArrayItem head) [] (itemChecks (item :: rest))).2
      = (enter (some item) () (fun _ => ((), some Stop.assertion))).2 := by
  have hitem : (roleArrayItem head [] item).2
      = (enter (some item) () (fun _ => ((), some (Stop.assertion : Stop Unit)))).2 := by
    rw [roleArrayItem]
    refine enter_congr (fun items => ?_)
    rw [if_pos ⟨rfl, hhead⟩]
  have hsome : ∃ stop, (enter (some item) () (fun _ =>
      ((), some (Stop.assertion : Stop Unit)))).2 = some stop := by
    rcases hstop : (enter (some item) () (fun _ =>
        ((), some (Stop.assertion : Stop Unit)))).2 with _ | stop
    · obtain ⟨_, _, _, hnever⟩ := enter_end_iff.mp hstop
      cases hnever
    · exact ⟨stop, rfl⟩
  obtain ⟨stop, hstop⟩ := hsome
  rw [itemChecks, run, CborCursor.andThen, hitem, hstop]

/-! ## The root map -/

def holdsRoles (entry : Entry) : Bool :=
  named entry "roles" && !((entry.2.bind Item.content).getD []).isEmpty

def flagged : Bool → List (Check Entry) → List (Check (Bool × Entry))
  | _, [] => []
  | later, .fail :: rest => .fail :: flagged later rest
  | later, .look entry :: rest => .look (later, entry) :: flagged (later || holdsRoles entry) rest

def rootVerdict (entry : Bool × Entry) : Option (Stop Unit) :=
  (rootEntry (if entry.1 then [emptyChain] else []) entry.2).2

/-- `rootEntry`, which is told whether there have been roles. -/
def flaggedEntry (chains : List RoleCertChain) (entry : Bool × Entry) :
    List RoleCertChain × Option (Stop Unit) :=
  ((rootEntry chains entry.2).1, rootVerdict entry)

lemma flaggedEntry_verdict (chains : List RoleCertChain) (entry : Bool × Entry) :
    (flaggedEntry chains entry).2 = rootVerdict entry := rfl

lemma rootEntry_verdict (head : List RoleCertChain) (entry : Entry) :
    (rootEntry head entry).2 = rootVerdict (!head.isEmpty, entry) := by
  have hhead : head = [] ↔ (if !head.isEmpty then [emptyChain] else []) = [] := by
    cases head <;> simp
  rw [rootVerdict, rootEntry, rootEntry, roleArrayItem_head hhead]
  by_cases hroles : named entry "roles" = true
  · rw [if_pos hroles, if_pos hroles]
    exact enter_congr (fun _ => rfl)
  · simp [hroles]

lemma rootEntry_update (h : (rootEntry head entry).2 = none) :
    (rootEntry head entry).1 = head ++ (if named entry "roles" then
        (entry.2.bind Item.content).getD [] else []).map (fun item => chainOf (entriesOfItem item))
      ∧ (holdsRoles entry = true → head = []) := by
  rw [rootEntry] at h ⊢
  by_cases hroles : named entry "roles" = true
  · simp only [hroles, if_true] at h ⊢
    obtain ⟨items, hcontent, hstart, hrun⟩ := enter_end_iff.mp h
    rw [enter, hcontent]
    simp only [hstart, false_eq_true, if_false, getD_some, holdsRoles, hroles, hcontent,
      Bool.true_and, Bool.not_eq_true', isEmpty_eq_false_iff]
    by_cases hhead : head = []
    · subst hhead
      rw [firstArray_result hrun]
      simp
    cases items with
    | nil => simp [itemChecks, run]
    | cons item rest =>
      -- another array with something in it is not read to its end
      simp only at hrun
      rw [laterArray_verdict hhead] at hrun
      obtain ⟨_, _, _, hnever⟩ := enter_end_iff.mp hrun
      cases hnever
  · simp [hroles, holdsRoles]

lemma run_rootEntry (checks : List (Check Entry)) (head : List RoleCertChain) :
    run rootEntry head checks = run flaggedEntry head (flagged (!head.isEmpty) checks) := by
  induction checks generalizing head with
  | nil => rfl
  | cons check rest ih =>
    cases check with
    | fail => rfl
    | look entry =>
      have hverdict := rootEntry_verdict head entry
      rw [flagged, run, run, CborCursor.andThen, CborCursor.andThen, flaggedEntry, ← hverdict]
      rcases hstop : (rootEntry head entry).2 with _ | stop
      · obtain ⟨hresult, honce⟩ := rootEntry_update hstop
        have hflag : (!(rootEntry head entry).1.isEmpty) = (!head.isEmpty || holdsRoles entry) := by
          rw [hresult]
          cases head with
          | cons chain head => rfl
          | nil =>
            by_cases hroles : named entry "roles" = true
            · simp [holdsRoles, hroles]
            · simp [holdsRoles, hroles]
        simp only
        rw [ih, hflag]
      · rfl

lemma looks_flagged (later : Bool) (checks : List (Check Entry)) :
    (looks (flagged later checks)).map Prod.snd = looks checks := by
  induction checks generalizing later with
  | nil => rfl
  | cons check rest ih =>
    cases check with
    | fail => exact ih later
    | look entry => exact congrArg (entry :: ·) (ih _)

lemma moves_flagged (later : Bool) (checks : List (Check Entry)) :
    moves (flagged later checks) = moves checks := by
  induction checks generalizing later with
  | nil => rfl
  | cons check rest ih =>
    cases check with
    | fail => rfl
    | look entry => exact ih _

def rootStop (items : List Item) : Option (Stop Unit) :=
  (run rootEntry [] (entryChecks items)).2

lemma rootStop_eq (items : List Item) :
    rootStop items = (run flaggedEntry [] (flagged false (entryChecks items))).2 := by
  rw [rootStop, run_rootEntry]
  rfl

variable {later : Bool}

lemma rootVerdict_end (h : rootVerdict (later, entry) = none)
    (hroles : named entry "roles" = true) :
    ∀ item ∈ (entry.2.bind Item.content).getD [], itemVerdict item = none := by
  rw [rootVerdict, rootEntry, if_pos hroles] at h
  obtain ⟨items, hcontent, hstart, hrun⟩ := enter_end_iff.mp h
  simp only at hcontent
  rw [hcontent, getD_some]
  cases later with
  | false => exact (firstArray_end_iff.mp hrun).2
  | true =>
    cases items with
    | nil => exact fun item hitem => absurd hitem not_mem_nil
    | cons item rest =>
      simp only [if_true] at hrun
      rw [laterArray_verdict (cons_ne_nil _ _)] at hrun
      obtain ⟨_, _, _, hnever⟩ := enter_end_iff.mp hrun
      cases hnever

lemma decoded_ok {payload : Item} (h : cborPayloadToRoles payload = .ok (some chains)) :
    payload.WellFormed
      ∧ (∀ role ∈ rolesOf payload, ∃ items, role.content = some items ∧ ReadsRole items)
      ∧ chains = (rolesOf payload).map (fun role => chainOf (entriesOfItem role)) := by
  rw [cborPayloadToRoles] at h
  rcases hcontent : payload.content with _ | items
  · rw [hcontent] at h
    cases h
  rw [hcontent] at h
  simp only at h
  split_ifs at h with hmal
  have hstop : (run rootEntry [] (entryChecks items)).2 = none := by
    rcases hrun : run rootEntry [] (entryChecks items) with ⟨chains', _ | _ | _ | _⟩
    · rfl
    · rw [hrun] at h
      cases h
    · rw [hrun] at h
      cases h
    · rw [hrun] at h
      cases h
  have hflagged : (run flaggedEntry [] (flagged false (entryChecks items))).2 = none :=
    (rootStop_eq items).symm.trans hstop
  obtain ⟨hmoves, hfine⟩ := (run_end_iff flaggedEntry_verdict _ _).mp hflagged
  rw [moves_flagged] at hmoves
  obtain ⟨hlooks, hpasses⟩ := entryChecks_moves hmoves
  -- every entry is looked at, with one flag or the other
  have hroles : ∀ role ∈ rolesOf payload, itemVerdict role = none := by
    intro role hrole
    rw [rolesOf, hcontent, getD_some, mem_flatMap] at hrole
    obtain ⟨entry, hentry, hrole⟩ := hrole
    split_ifs at hrole with hnamed
    · rw [← hlooks, ← looks_flagged false, mem_map] at hentry
      obtain ⟨⟨later, entry'⟩, hmem, rfl⟩ := hentry
      exact rootVerdict_end (hfine _ hmem) hnamed role hrole
    · simp at hrole
  refine ⟨wellFormed_of_content hcontent hpasses, ?_, ?_⟩
  · intro role hrole
    obtain ⟨items, hitems, _, hreads⟩ := itemVerdict_end_iff.mp (hroles role hrole)
    exact ⟨items, hitems, hreads⟩
  · have hresult := run_result (fun head entry h => (rootEntry_update h).1) _ _ hstop
    have hchains : (run rootEntry [] (entryChecks items)).1 = chains := by
      rcases hrun : run rootEntry [] (entryChecks items) with ⟨chains', stop⟩
      rw [hrun] at hstop h
      simp only at hstop
      subst hstop
      cases h
      rfl
    rw [← hchains, hresult, hlooks, rolesOf, hcontent, getD_some]
    have hfold : ∀ (entries : List Entry) (start : List RoleCertChain),
        entries.foldl (fun head entry => head ++ (if named entry "roles" then
            (entry.2.bind Item.content).getD [] else []).map
              (fun item => chainOf (entriesOfItem item))) start
          = start ++ (entries.flatMap (fun entry => if named entry "roles" then
            (entry.2.bind Item.content).getD [] else [])).map
              (fun item => chainOf (entriesOfItem item)) := by
      intro entries
      induction entries with
      | nil => simp
      | cons entry rest ih =>
        intro start
        rw [foldl_cons, ih, flatMap_cons, map_append, append_assoc]
    simp [hfold]

/-! ## The ways out -/

/-- An entry of the root map that does no harm: the roles are a container, careful as far as the
decoder gets; and where there were roles before, there are no more, or the first item is not
entered. -/
structure CarefulRoot (later : Bool) (entry : Entry) : Prop where
  roles : named entry "roles" = true → ∃ items, entry.2.bind Item.content = some items
    ∧ (startsMalformed items = true ∨ if later then
          ∀ item ∈ items.head?, ∃ role, item.content = some role ∧ startsMalformed role = true
        else
          ∀ item ∈ reached (fun item => (itemVerdict item).isSome) (itemChecks items),
            ∃ role, item.content = some role ∧ (startsMalformed role = true ∨ CarefulRole role))

lemma rootVerdict_proper_iff :
    Proper (rootVerdict (later, entry)) ↔ CarefulRoot later entry := by
  rw [rootVerdict, rootEntry]
  by_cases hroles : named entry "roles" = true
  · have hcareful : CarefulRoot later entry ↔ _ :=
      ⟨fun h => h.roles hroles, fun h => ⟨fun _ => h⟩⟩
    rw [hcareful, if_pos hroles, enter_proper_iff]
    refine exists_congr (fun items => and_congr_right (fun _ => or_congr_right ?_))
    cases later with
    | false =>
      simp only [false_eq_true, if_false, ← itemVerdict_proper_iff]
      exact run_proper_iff roleArrayItem_verdict _ _
    | true =>
      simp only [if_true]
      cases items with
      | nil => simp [itemChecks, run, Proper]
      | cons item rest =>
        rw [laterArray_verdict (cons_ne_nil _ _), enter_proper_iff]
        simp [Proper]
  simp only [hroles, if_false, false_eq_true]
  have hcareful : CarefulRoot later entry := ⟨fun h => absurd h hroles⟩
  simp [Proper, hcareful]

/-- A payload at which the decoder does not end in a wrong way, and no type has the low bits of
the signed one only. -/
structure CarefulPayload (payload : Item) : Prop where
  entries : ∀ items, payload.content = some items → startsMalformed items = false →
    ∀ entry ∈ reached (fun entry => (rootVerdict entry).isSome) (flagged false (entryChecks items)),
      CarefulRoot entry.1 entry.2
  types : (∃ items, payload.content = some items ∧ startsMalformed items = false
      ∧ rootStop items = none) →
    ∀ role ∈ rolesOf payload, ∀ entry ∈ entriesOfItem role, named entry "credtype" = true →
      entry.2 = some (.uint signedAsymmetricKey.toUInt64)

lemma rootStop_proper_iff :
    Proper (rootStop items) ↔ ∀ entry ∈ reached (fun entry => (rootVerdict entry).isSome)
          (flagged false (entryChecks items)), CarefulRoot entry.1 entry.2 := by
  rw [rootStop_eq, run_proper_iff flaggedEntry_verdict]
  simp [← rootVerdict_proper_iff]

lemma roleVerdict_credId (h : roleVerdict entry = none) (hid : named entry "credid" = true) :
    ∃ n, entry.2 = some (.uint n) ∧ n.toNat ≤ uint32Max := by
  rw [roleVerdict, roleEntry, if_pos hid] at h
  split at h
  · rename_i n heq
    split_ifs at h with hbig
    exact ⟨n, heq, not_lt.mp hbig⟩
  · cases h

lemma all_or_error_iff (payload : Item) : AllOrError payload ↔ CarefulPayload payload := by
  rcases hcontent : payload.content with _ | items
  · have herror : cborPayloadToRoles payload = .error := by
      rw [cborPayloadToRoles, hcontent]
    rw [AllOrError, herror]
    simp only [true_iff]
    refine ⟨fun items h => ?_, fun ⟨items, h, _⟩ => ?_⟩
    · rw [hcontent] at h
      cases h
    · rw [hcontent] at h
      cases h
  by_cases hmal : startsMalformed items = true
  · have herror : cborPayloadToRoles payload = .error := by
      rw [cborPayloadToRoles, hcontent]
      simp [hmal]
    rw [AllOrError, herror]
    simp only [true_iff]
    refine ⟨fun items' h hfalse => ?_, fun ⟨items', h, hfalse, _⟩ => ?_⟩
    · rw [hcontent, Option.some.injEq] at h
      rw [← h, hmal] at hfalse
      cases hfalse
    · rw [hcontent, Option.some.injEq] at h
      rw [← h, hmal] at hfalse
      cases hfalse
  rw [Bool.not_eq_true] at hmal
  have hdecoded : cborPayloadToRoles payload
      = decodedOf (run rootEntry [] (entryChecks items)) := by
    rw [cborPayloadToRoles, hcontent]
    simp [hmal]
  have hcareful : CarefulPayload payload ↔ Proper (rootStop items)
      ∧ (rootStop items = none → ∀ role ∈ rolesOf payload, ∀ entry ∈ entriesOfItem role,
        named entry "credtype" = true → entry.2 = some (.uint signedAsymmetricKey.toUInt64)) := by
    rw [rootStop_proper_iff]
    constructor
    · exact fun h => ⟨h.entries items hcontent hmal,
        fun hstop => h.types ⟨items, hcontent, hmal, hstop⟩⟩
    · rintro ⟨hentries, htypes⟩
      refine ⟨fun items' h _ => ?_, fun ⟨items', h, _, hstop⟩ => ?_⟩
      · rw [hcontent, Option.some.injEq] at h
        exact h ▸ hentries
      · rw [hcontent, Option.some.injEq] at h
        exact htypes (h ▸ hstop)
  rw [hcareful]
  rcases hrun : run rootEntry [] (entryChecks items) with ⟨chains, stop⟩
  have hstop : rootStop items = stop := by rw [rootStop, hrun]
  rw [hrun] at hdecoded
  rw [AllOrError, hstop]
  rcases stop with _ | _ | _ | _
  · -- the end of the payload
    have hok : cborPayloadToRoles payload = .ok (some chains) := hdecoded
    obtain ⟨hwell, hreads, hchains⟩ := decoded_ok hok
    rw [hok]
    simp only [Proper, true_or, true_and, forall_const]
    constructor
    · rintro ⟨_, hgood, _⟩ role hrole entry hentry
      exact (hgood role hrole).2.credType entry hentry
    · intro htypes
      refine ⟨hwell, fun role hrole => ?_, hchains⟩
      obtain ⟨entries, hentries, hread⟩ := hreads role hrole
      have hof : entriesOfItem role = entriesOf entries := by
        rw [entriesOfItem, hentries, getD_some]
      rw [hof]
      refine ⟨by rw [hentries]; rfl, hread.publicData, ?_, ?_⟩
      · intro entry hentry
        exact htypes role hrole entry (hof ▸ hentry)
      · exact fun entry hentry => roleVerdict_credId (hread.fine entry hentry)
  · have herror : cborPayloadToRoles payload = .error := hdecoded
    rw [herror]
    simp [Proper]
  · have haborts : cborPayloadToRoles payload = .aborts := hdecoded
    rw [haborts]
    simp [Proper]
  · have hunset : cborPayloadToRoles payload = .ok none := hdecoded
    rw [hunset]
    simp [Proper]

end

open CborCursor (maxRecursions)
open List (filterMap_cons forall_mem_cons map_cons map_nil not_mem_nil)

/-! ## Entries with names -/

def writtenNames : List String :=
  ["encoding", "data", "credid", "subjectuuid", "publicdata", "credtype", "roles", "rt", "if"]

lemma named_written {key : String} (hkey : key ∈ writtenNames) (value : Option Item)
    (name : String) : named (cString key, value) name = decide (key = name) := by
  have hplain : ∀ key ∈ writtenNames, (cString key).takeWhile (· ≠ 0) = cString key := by decide
  rw [named, hplain key hkey]
  simp [cString_inj]

section

variable (entries : List (String × Item))

def asWritten : List (List UInt8 × Item) :=
  entries.map (fun e => (cString e.1, e.2))

lemma encodeMap_eq : encodeMap entries = .map (flatten (asWritten entries)) := by
  rw [encodeMap, flatten, asWritten, List.flatMap_map]
  rfl

def asMet : List Entry :=
  entries.map (fun e => (cString e.1, some e.2))

end

section Met

variable {entries : List (String × Item)}

lemma passes_encodeMap {depth : ℕ} (h : ∀ e ∈ entries, e.2.passes depth = true) :
    (encodeMap entries).passes (depth + 1) = true := by
  rw [encodeMap_eq]
  refine passes_map (fun e he => ?_)
  obtain ⟨e, hmem, rfl⟩ := List.mem_map.mp he
  exact h e hmem

section

variable (h : ∀ e ∈ entries, e.2.passes maxRecursions = true)
include h

lemma checks_encodeMap :
    entryChecks (flatten (asWritten entries)) = (asMet entries).map .look := by
  rw [entryChecks_flatten, asWritten, asMet, List.map_map, List.map_map]
  · rfl
  · intro e he
    obtain ⟨e, hmem, rfl⟩ := List.mem_map.mp he
    exact h e hmem

lemma entriesOf_encodeMap : entriesOf (flatten (asWritten entries)) = asMet entries := by
  have hchecks := checks_encodeMap h
  have hmet := moves_looks (asMet entries)
  rw [← hchecks] at hmet
  exact (entryChecks_moves hmet.1).1.symm.trans hmet.2

lemma moves_encodeMap : moves (entryChecks (flatten (asWritten entries))) = true := by
  rw [checks_encodeMap h]
  exact (moves_looks _).1

end

end Met

/-! ## A certificate -/

def encodingText (encoding : OicEncodingType) : String :=
  (encodingValueToString encoding).getD ""

variable (certificate : OicSecKey)

def certificateEntries : List (String × Item) :=
  [("encoding", encodeText (encodingText certificate.encoding)),
    ("data", if certificate.encoding = .der ∨ certificate.encoding = .raw
      then .bytes (some (certificate.data.getD []))
      else .text (some (certificate.data.getD [])))]

lemma encodePublicData_eq {certificate : OicSecKey} (h : certificate.encoding ≠ .unknown) :
    encodePublicData certificate = some (encodeMap (certificateEntries certificate)) := by
  rw [encodePublicData, certificateEntries, encodingText]
  cases hname : encodingValueToString certificate.encoding with
  | none => cases henc : certificate.encoding <;> simp_all [encodingValueToString]
  | some name => rfl

lemma passes_text (depth : ℕ) (s : String) : (encodeText s).passes depth = true := by
  cases depth <;> rfl

lemma passes_certificate (depth : ℕ) :
    ∀ e ∈ certificateEntries certificate, e.2.passes depth = true := by
  simp only [certificateEntries, forall_mem_cons, not_mem_nil, false_implies,
    implies_true, and_true]
  refine ⟨passes_text _ _, ?_⟩
  split <;> simp [Item.passes]

lemma encodingOfName_text {encoding : OicEncodingType} (h : encoding ≠ .unknown) :
    encodingOfName ((cString (encodingText encoding)).takeWhile (· ≠ 0)) = encoding := by
  cases encoding with
  | unknown => exact absurd rfl h
  | raw | base64 | pem | der => decide

lemma dataVerdict_met : ∀ e ∈ asMet (certificateEntries certificate), dataVerdict e = none := by
  simp only [asMet, certificateEntries, map_cons, map_nil, forall_mem_cons,
    not_mem_nil, false_implies, implies_true, and_true]
  constructor
  · simp (disch := decide) [dataVerdict, dataEntry, named_written, encodeText]
  · by_cases hbytes : certificate.encoding = .der ∨ certificate.encoding = .raw
    · simp (disch := decide) [dataVerdict, dataEntry, named_written, hbytes]
    · simp (disch := decide) [dataVerdict, dataEntry, named_written, hbytes]

lemma lastOf_data :
    lastOf dataValue (asMet (certificateEntries certificate))
      = some (certificate.data.getD []) := by
  by_cases hbytes : certificate.encoding = .der ∨ certificate.encoding = .raw
  · simp (disch := decide) [lastOf, asMet, certificateEntries, dataValue, named_written, hbytes,
      filterMap_cons, -List.getLast?_filterMap]
  simp (disch := decide) [lastOf, asMet, certificateEntries, dataValue, named_written, hbytes,
    filterMap_cons, -List.getLast?_filterMap]

lemma lastOf_encoding {certificate : OicSecKey} (h : certificate.encoding ≠ .unknown) :
    lastOf encodingValue (asMet (certificateEntries certificate)) = some certificate.encoding := by
  have hname := encodingOfName_text h
  simp (disch := decide) only [lastOf, asMet, certificateEntries, encodingValue, named_written,
    encodeText, map_cons, map_nil, filterMap_cons, List.filterMap_nil, hname]
  rfl

/-! ## A chain -/

variable (chain : RoleCertChain)

def chainEntries : List (String × Item) :=
  [("credid", .uint chain.credId.toUInt64),
    ("subjectuuid", encodeText "00000000-0000-0000-0000-000000000000"),
    ("publicdata", encodeMap (certificateEntries chain.certificate)),
    ("credtype", .uint signedAsymmetricKey.toUInt64)]

lemma encodeChain_eq {chain : RoleCertChain} (h : chain.certificate.encoding ≠ .unknown) :
    encodeChain chain = some (encodeMap (chainEntries chain)) := by
  rw [encodeChain, encodePublicData_eq h]
  rfl

lemma passes_chain (depth : ℕ) : ∀ e ∈ chainEntries chain, e.2.passes (depth + 1) = true := by
  simp only [chainEntries, forall_mem_cons, not_mem_nil, false_implies, implies_true, and_true]
  refine ⟨rfl, passes_text _ _, passes_encodeMap (passes_certificate _ depth), rfl⟩

def withData : RoleCertChain :=
  { chain with certificate :=
    { chain.certificate with data := some (chain.certificate.data.getD []) } }

lemma keyEntriesOf_met :
    keyEntriesOf (cString "publicdata", some (encodeMap (certificateEntries certificate)))
      = asMet (certificateEntries certificate) := by
  rw [keyEntriesOf, named_written (by decide), encodeMap_eq]
  simp only [decide_true, if_true, Option.bind_some, Item.content, Option.getD_some]
  exact entriesOf_encodeMap (passes_certificate _ _)

lemma keyVerdict_met : keyVerdict (some (encodeMap (certificateEntries certificate))) = none := by
  rw [keyVerdict, deserializeEncoding, enter_end_iff, encodeMap_eq]
  refine ⟨_, rfl, startsMalformed_flatten _, ?_⟩
  rw [run_end_iff dataEntry_verdict, checks_encodeMap (passes_certificate _ _)]
  exact ⟨(moves_looks _).1, (moves_looks _).2.symm ▸ dataVerdict_met certificate⟩

lemma roleVerdict_met : ∀ e ∈ asMet (chainEntries chain), roleVerdict e = none := by
  simp only [asMet, chainEntries, map_cons, map_nil, forall_mem_cons,
    not_mem_nil, false_implies, implies_true, and_true]
  refine ⟨?_, ?_, ?_, ?_⟩
  · have hlt := chain.credId.toNat_lt
    have hsmall : ¬ uint32Max < chain.credId.toNat := by
      unfold uint32Max
      omega
    simp (disch := decide) [roleVerdict, roleEntry, named_written, hsmall]
  · simp (disch := decide) [roleVerdict, roleEntry, named_written]
  · have hkey := keyVerdict_met chain.certificate
    rw [← deserializeEncoding_verdict emptyChain.certificate] at hkey
    simp (disch := decide) [roleVerdict, roleEntry, named_written, hkey]
  · simp (disch := decide) [roleVerdict, roleEntry, named_written]

lemma keyEntries_met :
    (asMet (chainEntries chain)).flatMap keyEntriesOf
      = asMet (certificateEntries chain.certificate) := by
  have hkey := keyEntriesOf_met chain.certificate
  simp only [asMet, chainEntries, map_cons, map_nil, List.flatMap_cons, List.flatMap_nil]
  rw [hkey]
  simp (disch := decide) [keyEntriesOf, named_written, asMet]

lemma chainOf_met {chain : RoleCertChain} (h : chain.certificate.encoding ≠ .unknown) :
    chainOf (asMet (chainEntries chain)) = withData chain := by
  have hid : lastOf credIdValue (asMet (chainEntries chain)) = some chain.credId := by
    simp (disch := decide) [lastOf, asMet, chainEntries, credIdValue, named_written,
      filterMap_cons, -List.getLast?_filterMap]
  rw [chainOf, keyEntries_met, lastOf_data, lastOf_encoding h, hid]
  rfl

/-! ## The list -/

def rootEntries (roles : List RoleCertChain) : List (String × Item) :=
  [("roles", .array (roles.map (fun chain => encodeMap (chainEntries chain)))),
    ("rt", .array [encodeText "oic.r.roles"]), ("if", .array [encodeText "oic.if.baseline"])]

section List

variable {roles : List RoleCertChain}

lemma rolesPayload_eq (hknown : ∀ chain ∈ roles, chain.certificate.encoding ≠ .unknown) :
    rolesPayload roles = some (encodeMap (rootEntries roles)) := by
  have hchains := CborTree.mapM_some (fun chain hchain => encodeChain_eq (hknown chain hchain))
  rw [rolesPayload, hchains]
  rfl

lemma rolesToCBORPayload_ends (hknown : ∀ chain ∈ roles, chain.certificate.encoding ≠ .unknown)
    (encodedSize : Item → Nat) (cborSize : Nat) :
    ∃ calls, rolesToCBORPayload encodedSize roles calls cborSize
      = some (some (encodeMap (rootEntries roles))) := by
  have hpayload := rolesPayload_eq hknown
  -- what is missing shrinks with every call
  obtain ⟨missing, hmissing⟩ : ∃ missing, encodedSize (encodeMap (rootEntries roles))
      - (if cborSize = 0 then cborSizeDefault else cborSize) ≤ missing := ⟨_, le_refl _⟩
  induction missing generalizing cborSize with
  | zero =>
    refine ⟨1, ?_⟩
    rw [rolesToCBORPayload, hpayload]
    exact if_pos (by omega)
  | succ missing ih =>
    have hpos : 0 < if cborSize = 0 then cborSizeDefault else cborSize := by
      unfold cborSizeDefault
      split <;> omega
    obtain ⟨calls, hcalls⟩ := ih (2 * if cborSize = 0 then cborSizeDefault else cborSize) (by
      rw [if_neg (by omega : ¬ 2 * (if cborSize = 0 then cborSizeDefault else cborSize) = 0)]
      omega)
    by_cases hfits : encodedSize (encodeMap (rootEntries roles))
        ≤ if cborSize = 0 then cborSizeDefault else cborSize
    · refine ⟨1, ?_⟩
      rw [rolesToCBORPayload, hpayload]
      exact if_pos hfits
    refine ⟨calls + 1, ?_⟩
    rw [rolesToCBORPayload, hpayload]
    exact (if_neg hfits).trans hcalls

lemma passes_root (depth : ℕ) : ∀ e ∈ rootEntries roles, e.2.passes (depth + 3) = true := by
  simp only [rootEntries, forall_mem_cons, not_mem_nil, false_implies, implies_true, and_true]
  refine ⟨passes_array (fun item hitem => ?_), ?_, ?_⟩
  · obtain ⟨chain, _, rfl⟩ := List.mem_map.mp hitem
    exact passes_encodeMap (passes_chain chain depth)
  · exact passes_array (by simp [passes_text])
  · exact passes_array (by simp [passes_text])

lemma itemVerdict_met (chain : RoleCertChain) :
    itemVerdict (encodeMap (chainEntries chain)) = none := by
  have hpasses : ∀ e ∈ chainEntries chain, e.2.passes maxRecursions = true :=
    passes_chain chain 1023
  rw [itemVerdict_end_iff, encodeMap_eq]
  refine ⟨_, rfl, startsMalformed_flatten _, moves_encodeMap hpasses, ?_, ?_⟩
  · rw [entriesOf_encodeMap hpasses]
    exact roleVerdict_met chain
  · rw [entriesOf_encodeMap hpasses, keyEntries_met, lastOf_data]
    rfl

lemma rolesOf_encoded : rolesOf (encodeMap (rootEntries roles))
    = roles.map (fun chain => encodeMap (chainEntries chain)) := by
  have hentries : entriesOf (flatten (asWritten (rootEntries roles))) = asMet (rootEntries roles) :=
    entriesOf_encodeMap (passes_root 1021)
  rw [rolesOf, encodeMap_eq, Item.content, Option.getD_some, hentries]
  simp (disch := decide) [asMet, rootEntries, named_written, Item.content]

lemma rootVerdict_roles : rootVerdict (false, (cString "roles",
    some (.array (roles.map (fun chain => encodeMap (chainEntries chain)))))) = none := by
  have hitems : ∀ item ∈ roles.map (fun chain => encodeMap (chainEntries chain)),
      item.passes maxRecursions = true := by
    intro item hitem
    obtain ⟨chain, _, rfl⟩ := List.mem_map.mp hitem
    exact passes_encodeMap (passes_chain chain 1022)
  have hstart : startsMalformed (roles.map (fun chain => encodeMap (chainEntries chain)))
      = false := by
    cases roles with
    | nil | cons => rfl
  rw [rootVerdict, rootEntry, named_written (by decide)]
  simp only [decide_true, if_true]
  refine enter_end_iff.mpr ⟨_, rfl, hstart, firstArray_end_iff.mpr ⟨?_, ?_⟩⟩
  · rw [itemChecks_of_passes hitems]
    exact (moves_looks _).1
  · intro item hitem
    obtain ⟨chain, _, rfl⟩ := List.mem_map.mp hitem
    exact itemVerdict_met chain

lemma rootStop_encoded : rootStop (flatten (asWritten (rootEntries roles))) = none := by
  have hchecks : entryChecks (flatten (asWritten (rootEntries roles)))
      = (asMet (rootEntries roles)).map .look := checks_encodeMap (passes_root 1021)
  rw [rootStop_eq, run_end_iff flaggedEntry_verdict, moves_flagged, hchecks]
  refine ⟨(moves_looks _).1, ?_⟩
  simp only [asMet, rootEntries, map_cons, map_nil, flagged, looks,
    forall_mem_cons, not_mem_nil, false_implies, implies_true, and_true]
  -- the other two entries are ignored, with roles before them or not
  refine ⟨rootVerdict_roles, ?_, ?_⟩
  · simp (disch := decide) [rootVerdict, rootEntry, named_written]
  · simp (disch := decide) [rootVerdict, rootEntry, named_written]

lemma decode_encoded (hknown : ∀ chain ∈ roles, chain.certificate.encoding ≠ .unknown) :
    cborPayloadToRoles (encodeMap (rootEntries roles)) = .ok (some (roles.map withData)) := by
  have hstop : rootStop (flatten (asWritten (rootEntries roles))) = none := rootStop_encoded
  have hok : ∃ chains, cborPayloadToRoles (encodeMap (rootEntries roles)) = .ok (some chains) := by
    rw [cborPayloadToRoles, encodeMap_eq, Item.content]
    simp only [startsMalformed_flatten, Bool.false_eq_true, if_false]
    rcases hrun : run rootEntry [] (entryChecks (flatten (asWritten (rootEntries roles))))
      with ⟨chains, stop⟩
    rw [rootStop, hrun] at hstop
    simp only at hstop
    subst hstop
    exact ⟨chains, rfl⟩
  obtain ⟨chains, hchains⟩ := hok
  obtain ⟨_, _, heq⟩ := decoded_ok hchains
  rw [hchains, heq, rolesOf_encoded, List.map_map]
  refine congrArg (fun l => RolesDecoded.ok (some l)) (List.map_congr_left (fun chain hchain => ?_))
  have hentries : entriesOf (flatten (asWritten (chainEntries chain)))
      = asMet (chainEntries chain) :=
    entriesOf_encodeMap (passes_chain chain 1023)
  rw [Function.comp_apply, entriesOfItem, encodeMap_eq, Item.content, Option.getD_some, hentries,
    chainOf_met (hknown chain hchain)]

end List

/-! ## Both ways -/

def RolesComeBack (encodedSize : Item → Nat) (roles : List RoleCertChain) : Prop :=
  ∀ cborSize, ∃ calls payload, rolesToCBORPayload encodedSize roles calls cborSize
      = some (some payload)
    ∧ cborPayloadToRoles payload = .ok (some roles)

lemma rolesToCBORPayload_unique {encodedSize : Item → Nat} {roles : List RoleCertChain}
    {calls cborSize : Nat} {payload : Item}
    (h : rolesToCBORPayload encodedSize roles calls cborSize = some (some payload)) :
    rolesPayload roles = some payload := by
  induction calls generalizing cborSize with
  | zero => cases h
  | succ calls ih =>
    rw [rolesToCBORPayload] at h
    rcases hpayload : rolesPayload roles with _ | payload'
    · rw [hpayload] at h
      cases h
    rw [hpayload] at h
    by_cases hfits : encodedSize payload' ≤ if cborSize = 0 then cborSizeDefault else cborSize
    · exact Option.some.inj ((if_pos hfits).symm.trans h)
    rw [← hpayload]
    exact ih ((if_neg hfits).symm.trans h)

lemma comeBack_iff (encodedSize : Item → Nat) {roles : List RoleCertChain}
    (hknown : ∀ chain ∈ roles, chain.certificate.encoding ≠ .unknown) :
    RolesComeBack encodedSize roles ↔ ∀ chain ∈ roles, chain.certificate.data.isSome = true := by
  have hwith : roles.map withData = roles
      ↔ ∀ chain ∈ roles, chain.certificate.data.isSome = true := by
    have hsame : roles.map withData = roles ↔ roles.map withData = roles.map id := by
      rw [List.map_id]
    rw [hsame, List.map_inj_left]
    refine forall₂_congr (fun chain _ => ?_)
    obtain ⟨credId, data, encoding⟩ := chain
    cases data <;> simp [withData]
  rw [← hwith]
  constructor
  · intro h
    obtain ⟨calls, payload, hpayload, hdecoded⟩ := h 0
    have hwritten := rolesToCBORPayload_unique hpayload
    rw [rolesPayload_eq hknown, Option.some.injEq] at hwritten
    rw [← hwritten, decode_encoded hknown] at hdecoded
    injection hdecoded with hdecoded
    exact Option.some.inj hdecoded
  · intro h cborSize
    obtain ⟨calls, hcalls⟩ := rolesToCBORPayload_ends hknown encodedSize cborSize
    exact ⟨calls, _, hcalls, (decode_encoded hknown).trans (by rw [h])⟩

/-- **When the decoder is all or error**, for every payload, and when a list comes back. -/
theorem roles_all_or_error_iff (payload : Item) (encodedSize : Item → Nat)
    (roles : List RoleCertChain) (hknown : ∀ chain ∈ roles, chain.certificate.encoding ≠ .unknown) :
    (AllOrError payload ↔ CarefulPayload payload)
      ∧ (RolesComeBack encodedSize roles ↔ ∀ chain ∈ roles, chain.certificate.data.isSome = true) :=
  ⟨all_or_error_iff payload, comeBack_iff encodedSize hknown⟩

def pskRole : Item := encodeMap [("roles", .array [encodeMap [("credtype", .uint 1)]])]

theorem pskRole_accepted : cborPayloadToRoles pskRole = .ok none ∧ ¬ AllOrError pskRole := by
  have hdecoded : cborPayloadToRoles pskRole = .ok none := by
    rfl
  refine ⟨hdecoded, ?_⟩
  rw [AllOrError, hdecoded]
  exact fun h => h

theorem plainChain_comesBack :
    (AllOrError pskRole ↔ CarefulPayload pskRole)
      ∧ (RolesComeBack (fun _ => 1) [⟨1, ⟨some [1, 2, 3], .der⟩⟩]
        ↔ ∀ chain ∈ [(⟨1, ⟨some [1, 2, 3], .der⟩⟩ : RoleCertChain)],
          chain.certificate.data.isSome = true) :=
  roles_all_or_error_iff pskRole (fun _ => 1) _ (by simp)

end Iochibity.Sec.RolesCodec
