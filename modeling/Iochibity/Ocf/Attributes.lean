/-
The attributes of a resource, `OCSetAttribute` and `OCGetAttribute` in `ocresource.c`. Where a new
value cannot be built, the node it is for is released with all behind it, and stays linked.

Allocations succeed; the database that the protocol-independent id is also written to is left out.
-/
import Iochibity.Lib.FirstMatch
import Iochibity.Ocf.StackResult

namespace Iochibity.Ocf.Attribute

open List

abbrev Text := List UInt8

/-- What a `void *` points to: a string or an `OCStringLL`. -/
inductive AttrValue
  | string (text : Text)
  | stringLL (texts : List Text)
  deriving DecidableEq

def ocRsrvdResourceType : Text := [0x72, 0x74]

def ocRsrvdInterface : Text := [0x69, 0x66]

def ocRsrvdDeviceId : Text := [0x64, 0x69]

def ocRsrvdDataModelVersion : Text := [0x64, 0x6D, 0x76]

def ocRsrvdDeviceDescription : Text := [0x6C, 0x64]

def ocRsrvdDeviceMfgName : Text := [0x64, 0x6D, 0x6E]

structure OCAttribute where
  attrName : Text
  attrValue : AttrValue
  deriving DecidableEq

/-- `OCResource`, as far as attributes go. `released`: behind the nodes the list goes on in
memory that has been released. -/
structure OCResource where
  rsrcType : List Text
  rsrcInterface : List Text
  rsrcAttributes : List OCAttribute
  released : Bool
  deriving DecidableEq

def isReadOnly (name : Text) : Bool :=
  name = ocRsrvdResourceType ∨ name = ocRsrvdInterface ∨ name = ocRsrvdDeviceId

def OCResource.search (resource : OCResource) (name : Text) : Option (Option OCAttribute) :=
  match FirstMatch.lookup OCAttribute.attrName name resource.rsrcAttributes with
  | some resAttrib => some (some resAttrib)
  | none => if resource.released then none else some none

/-! ## Setting -/

def Fits (name : Text) : AttrValue → Prop
  | .string _ => name ≠ ocRsrvdDeviceDescription ∧ name ≠ ocRsrvdDeviceMfgName
  | .stringLL texts =>
    (name = ocRsrvdDeviceDescription ∨ name = ocRsrvdDeviceMfgName) ∧ texts ≠ []

/-- A call of `OCSetAttribute`. The value may be `NULL`. -/
structure SetCall where
  name : Text
  value : Option AttrValue
  fits : ∀ given, value = some given → Fits name given

/-- `OCCreateOCStringLL`: the tokens of `strtok_r` with a comma. -/
def ocCreateOCStringLL (text : Text) : List Text :=
  (text.splitOnP (· = 0x2C)).filter (· ≠ [])

/-- The new value; `NULL` is copied to `NULL`, and so is a text without a token to a list. -/
def SetCall.attrValue (call : SetCall) : Option AttrValue :=
  match call.value with
  | none => none
  | some (.stringLL texts) => some (.stringLL texts)
  | some (.string text) =>
    if call.name = ocRsrvdDataModelVersion then
      if ocCreateOCStringLL text = [] then none else some (.stringLL (ocCreateOCStringLL text))
    else some (.string text)

/-- `OCSetAttribute`; no result where it follows a pointer into released memory. -/
def ocSetAttribute (resource : OCResource) (call : SetCall) :
    Option (OCStackResult × OCResource) :=
  if isReadOnly call.name then some (.invalidParam, resource)
  else (resource.search call.name).map fun resAttrib =>
    match resAttrib, call.attrValue with
    | some _, some value =>
      (.ok, { resource with
        rsrcAttributes := FirstMatch.modify OCAttribute.attrName call.name
          ({ · with attrValue := value }) resource.rsrcAttributes })
    | none, some value =>
      (.ok, { resource with
        rsrcAttributes := ⟨call.name, value⟩ :: resource.rsrcAttributes })
    | some _, none =>
      (.noMemory, { resource with
        rsrcAttributes := resource.rsrcAttributes.takeWhile
          (·.attrName ≠ call.name)
        released := true })
    | none, none => (.noMemory, { resource with rsrcAttributes := [], released := true })

def setAttributes (resource : OCResource) (calls : List SetCall) : Option OCResource :=
  calls.foldlM (fun resource call => (ocSetAttribute resource call).map Prod.snd) resource

/-- `OCResourcePayloadAddStringLL` as `OCGetAttribute` calls it. The pointer to the caller's
variable is taken for a node, whose `next` is then the variable; so its list gets one longer. -/
def addStringLL (value : List Text) (text : Text) : List Text := value ++ [text]

/-- `OCGetAttribute` with what it leaves in `value`. -/
def ocGetAttribute (serverInstanceID : Text) (resource : OCResource) (name : Text) :
    Option (OCStackResult × Option AttrValue) :=
  if name = [] then some (.invalidParam, none)
  else if name = ocRsrvdDeviceId then some (.ok, some (.string serverInstanceID))
  else if name = ocRsrvdResourceType then
    some (.ok, some (.stringLL (resource.rsrcType.foldl addStringLL [])))
  else if name = ocRsrvdInterface then
    some (.ok, some (.stringLL (resource.rsrcInterface.foldl addStringLL [])))
  else (resource.search name).map fun resAttrib =>
    match resAttrib with
    | some resAttrib => (.ok, some resAttrib.attrValue)
    | none => (.noResource, none)

/-! ## What is kept -/

/-- The name is read-only, or a value can be built: it is not `NULL`, and that of the data model
version has a token. -/
def SetCall.Buildable (call : SetCall) : Prop :=
  isReadOnly call.name = true ∨ call.value ≠ none
    ∧ ∀ text, call.name = ocRsrvdDataModelVersion → call.value = some (.string text) →
      ocCreateOCStringLL text ≠ []

def SetCall.stored (call : SetCall) : Option AttrValue :=
  if isReadOnly call.name then none else call.attrValue

def lastStored (calls : List SetCall) (name : Text) : Option AttrValue :=
  calls.reverse.findSome? fun call => if call.name = name then call.stored else none

structure Holds (start resource : OCResource) (calls : List SetCall) : Prop where
  whole : resource.released = false
  types : resource.rsrcType = start.rsrcType
  interfaces : resource.rsrcInterface = start.rsrcInterface
  attributes : ∀ name, (FirstMatch.lookup OCAttribute.attrName name resource.rsrcAttributes).map
      OCAttribute.attrValue = lastStored calls name

section Keeping

variable {start resource : OCResource} {calls : List SetCall} {call : SetCall}

lemma attrValue_isSome (h : call.Buildable) (hname : isReadOnly call.name = false) :
    ∃ value, call.attrValue = some value := by
  obtain h | ⟨hvalue, htoken⟩ := h
  · rw [hname] at h
    cases h
  rw [SetCall.attrValue]
  obtain ⟨value, hgiven⟩ := Option.ne_none_iff_exists'.mp hvalue
  rw [hgiven]
  cases value with
  | stringLL texts => exact ⟨_, rfl⟩
  | string text =>
    dsimp only
    by_cases hdmv : call.name = ocRsrvdDataModelVersion
    · rw [if_pos hdmv, if_neg (htoken text hdmv hgiven)]
      exact ⟨_, rfl⟩
    · rw [if_neg hdmv]
      exact ⟨_, rfl⟩

lemma lastStored_append (calls : List SetCall) (call : SetCall) (name : Text) :
    lastStored (calls ++ [call]) name = (if call.name = name then call.stored else none).or
        (lastStored calls name) := by
  rw [lastStored, reverse_append, reverse_singleton, singleton_append, findSome?_cons]
  cases (if call.name = name then call.stored else none) with
  | none | some => rfl

lemma lookup_modify (l : List OCAttribute) (name other : Text) (value : AttrValue) :
    (FirstMatch.lookup OCAttribute.attrName other
        (FirstMatch.modify OCAttribute.attrName name ({ · with attrValue := value }) l)).map
        OCAttribute.attrValue
      = if name = other then
          (FirstMatch.lookup OCAttribute.attrName other l).map fun _ => value
        else (FirstMatch.lookup OCAttribute.attrName other l).map OCAttribute.attrValue := by
  induction l with
  | nil => simp [FirstMatch.lookup, FirstMatch.modify]
  | cons resAttrib l ih =>
    rw [FirstMatch.modify]
    by_cases hname : resAttrib.attrName = name
    · rw [if_pos hname, ← hname]
      by_cases hother : resAttrib.attrName = other
      · simp [FirstMatch.lookup, hother]
      · simp [FirstMatch.lookup, hother]
    · rw [if_neg hname]
      by_cases hother : resAttrib.attrName = other
      · have hne : name ≠ other := fun h => hname (hother.trans h.symm)
        simp [FirstMatch.lookup, hother, hne]
      · simpa [FirstMatch.lookup, hother] using ih

lemma Holds.search (h : Holds start resource calls) (name : Text) :
    resource.search name
      = some (FirstMatch.lookup OCAttribute.attrName name resource.rsrcAttributes) := by
  rw [OCResource.search, h.whole]
  cases FirstMatch.lookup OCAttribute.attrName name resource.rsrcAttributes with
  | none | some => rfl

lemma Holds.set (h : Holds start resource calls) (hcall : call.Buildable) :
    ∃ result after, ocSetAttribute resource call = some (result, after)
      ∧ Holds start after (calls ++ [call]) ∧ (result ≠ .ok → after = resource) := by
  cases hname : isReadOnly call.name with
  | true =>
    refine ⟨.invalidParam, resource, if_pos hname, ⟨h.whole, h.types, h.interfaces, ?_⟩,
      fun _ => rfl⟩
    intro name
    rw [lastStored_append, SetCall.stored, if_pos hname, ite_self, Option.none_or]
    exact h.attributes name
  | false =>
    obtain ⟨value, hvalue⟩ := attrValue_isSome hcall hname
    have hstored : call.stored = some value := by
      rw [SetCall.stored, hname]
      exact hvalue
    have hset := h.search call.name
    rw [ocSetAttribute, if_neg (by simp [hname]), hset, hvalue]
    cases hfound : FirstMatch.lookup OCAttribute.attrName call.name resource.rsrcAttributes with
    | some resAttrib =>
      refine ⟨_, _, rfl, ⟨h.whole, h.types, h.interfaces, fun name => ?_⟩,
        fun hno => absurd rfl hno⟩
      dsimp only
      rw [lookup_modify, lastStored_append, hstored]
      by_cases heq : call.name = name
      · rw [if_pos heq, if_pos heq, ← heq, hfound]
        rfl
      · rw [if_neg heq, if_neg heq, h.attributes name, Option.none_or]
    | none =>
      refine ⟨_, _, rfl, ⟨h.whole, h.types, h.interfaces, fun name => ?_⟩,
        fun hno => absurd rfl hno⟩
      rw [lastStored_append, hstored, ← h.attributes name]
      by_cases heq : call.name = name
      · simp [FirstMatch.lookup, heq]
      · simp [FirstMatch.lookup, heq]

lemma foldl_addStringLL (texts start : List Text) :
    texts.foldl addStringLL start = start ++ texts := by
  induction texts generalizing start with
  | nil => rw [foldl_nil, append_nil]
  | cons text texts ih => rw [foldl_cons, ih, addStringLL, append_assoc, singleton_append]

lemma Holds.get (h : Holds start resource calls) (serverInstanceID : Text) {name : Text}
    (hname : name ≠ []) :
    ocGetAttribute serverInstanceID resource name
      = some (if name = ocRsrvdDeviceId then (.ok, some (.string serverInstanceID))
        else if name = ocRsrvdResourceType then (.ok, some (.stringLL start.rsrcType))
        else if name = ocRsrvdInterface then (.ok, some (.stringLL start.rsrcInterface))
        else match lastStored calls name with
          | some value => (.ok, some value)
          | none => (.noResource, none)) := by
  rw [ocGetAttribute, if_neg hname, foldl_addStringLL, foldl_addStringLL, h.types, h.interfaces,
    h.search, ← h.attributes name]
  split_ifs
  · rfl
  · rfl
  · rfl
  · cases FirstMatch.lookup OCAttribute.attrName name resource.rsrcAttributes with
    | none | some => rfl

lemma Holds.run (h : Holds start resource calls) {more : List SetCall}
    (hmore : ∀ call ∈ more, call.Buildable) :
    ∃ after, setAttributes resource more = some after ∧ Holds start after (calls ++ more) := by
  induction more generalizing resource calls with
  | nil => exact ⟨resource, rfl, by rwa [append_nil]⟩
  | cons call more ih =>
    obtain ⟨hcall, hmore⟩ := forall_mem_cons.mp hmore
    obtain ⟨result, next, hset, hnext, -⟩ := h.set hcall
    obtain ⟨after, hrun, hafter⟩ := ih hnext hmore
    refine ⟨after, ?_, by rwa [append_assoc] at hafter⟩
    rw [setAttributes, foldlM_cons, hset]
    exact hrun

/-- After any calls whose values could be built, on a resource without attributes, every name
gives what was stored last under it, and `rt` and `if` the lists of the resource; and a call that
fails then changes nothing. -/
theorem attributes_exact {calls : List SetCall} (hempty : start.rsrcAttributes = [])
    (hwhole : start.released = false) (hcalls : ∀ call ∈ calls, call.Buildable) :
    ∃ resource, setAttributes start calls = some resource
      ∧ (∀ serverInstanceID name, name ≠ [] → ocGetAttribute serverInstanceID resource name
          = some (if name = ocRsrvdDeviceId then (.ok, some (.string serverInstanceID))
            else if name = ocRsrvdResourceType then (.ok, some (.stringLL start.rsrcType))
            else if name = ocRsrvdInterface then (.ok, some (.stringLL start.rsrcInterface))
            else match lastStored calls name with
              | some value => (.ok, some value)
              | none => (.noResource, none)))
      ∧ ∀ call : SetCall, call.Buildable → ∃ result after,
        ocSetAttribute resource call = some (result, after)
          ∧ (result ≠ .ok → after = resource) := by
  have hstart : Holds start start [] :=
    ⟨hwhole, rfl, rfl, fun name => by rw [hempty]; rfl⟩
  obtain ⟨resource, hrun, hholds⟩ := hstart.run hcalls
  rw [nil_append] at hholds
  refine ⟨resource, hrun, fun serverInstanceID name hname => hholds.get serverInstanceID hname,
    fun call hcall => ?_⟩
  obtain ⟨result, after, hset, -, hkeeps⟩ := hholds.set hcall
  exact ⟨result, after, hset, hkeeps⟩

end Keeping

/-- `n` is set to `a`. -/
def nameCall : SetCall :=
  ⟨[0x6E], some (.string [0x61]), fun _ h => by cases h; exact ⟨by decide, by decide⟩⟩

def bareResource : OCResource := ⟨[], [], [], false⟩

theorem nameCall_kept :
    ∃ resource, setAttributes bareResource [nameCall] = some resource
      ∧ ocGetAttribute [] resource [0x6E] = some (.ok, some (.string [0x61])) := by
  have hcall : nameCall.Buildable := Or.inr ⟨by decide, fun _ h => absurd h (by decide)⟩
  obtain ⟨resource, hrun, hget, -⟩ := @attributes_exact bareResource [nameCall]
    rfl rfl (by simpa using hcall)
  exact ⟨resource, hrun, (hget [] [0x6E] (by decide)).trans (by decide)⟩

theorem null_value_releases :
    (setAttributes bareResource [nameCall]).bind (fun resource =>
        ocSetAttribute resource ⟨[0x6D], none, fun _ h => absurd h (by simp)⟩)
      = some (.noMemory, ⟨[], [], [], true⟩) := by
  decide

end Iochibity.Ocf.Attribute
