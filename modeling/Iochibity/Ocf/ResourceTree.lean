/-
The list of resources, `oocf_resource_list.c`, with the functions of `ocstack.c` that bind types and
interfaces to a resource.
-/
import Iochibity.Coap.Message
import Iochibity.Lib.LinkedList
import Iochibity.Ocf.StackResult

namespace Iochibity.Ocf.ResourceList

open Coap (CString)

structure OCResource where
  next : Option ℕ
  uri : CString
  rsrcType : List CString
  rsrcInterface : List CString
  rsrcChildResources : List ℕ
  resourceProperties : UInt8
  endpointType : UInt32

structure ResourceTree where
  heap : ℕ → Option OCResource
  headResource : Option ℕ
  tailResource : Option ℕ
  allocated : ℕ

def ResourceTree.empty : ResourceTree := ⟨fun _ => none, none, none, 0⟩

variable (tree : ResourceTree) (pointer : ℕ)

def ResourceTree.next : Option ℕ :=
  (tree.heap pointer).bind OCResource.next

def ResourceTree.resources (tree : ResourceTree) : List ℕ :=
  SingleLinks.walk tree.next tree.allocated tree.headResource

def ResourceTree.modify (change : OCResource → OCResource) : ResourceTree :=
  { tree with heap := Function.update tree.heap pointer ((tree.heap pointer).map change) }

def ResourceTree.free : ResourceTree :=
  { tree with heap := Function.update tree.heap pointer none, allocated := tree.allocated - 1 }

def insertResource (pointer : ℕ) (resource : OCResource) (tree : ResourceTree) : ResourceTree :=
  let heap := Function.update tree.heap pointer (some { resource with next := none })
  match tree.headResource, tree.tailResource with
  | none, _ => ⟨heap, some pointer, some pointer, tree.allocated + 1⟩
  | some head, some tail =>
    ⟨Function.update heap tail ((heap tail).map ({ · with next := some pointer })),
      some head, some pointer, tree.allocated + 1⟩
  | some head, none => ⟨heap, some head, none, tree.allocated + 1⟩

/-- What `deleteResource` does with the links to a resource it has found; `prev` is the one
before it. -/
def unlinkResource (prev : Option ℕ) (temp : ℕ) (tree : ResourceTree) : ResourceTree :=
  if tree.headResource = some temp ∧ tree.tailResource = some temp then
    { tree with headResource := none, tailResource := none }
  else if tree.headResource = some temp then
    { tree with headResource := tree.next temp }
  else
    match prev with
    | none => tree
    | some prev =>
      if tree.tailResource = some temp then
        ResourceTree.modify { tree with tailResource := some prev } prev ({ · with next := none })
      else tree.modify prev ({ · with next := tree.next temp })

def deleteResourceLoop (resource : ℕ) (tree : ResourceTree) :
    ℕ → Option ℕ → Option ℕ → OCStackResult × ResourceTree
  | 0, _, _ => (.error, tree)
  | _ + 1, _, none => (.error, tree)
  | fuel + 1, prev, some temp =>
    if temp = resource then (.ok, (unlinkResource prev temp tree).free temp)
    else deleteResourceLoop resource tree fuel (some temp) (tree.next temp)

def deleteResource (resource : Option ℕ) (tree : ResourceTree) : OCStackResult × ResourceTree :=
  match resource with
  | none => (.invalidParam, tree)
  | some resource => deleteResourceLoop resource tree tree.allocated none tree.headResource

/-! ## Types and interfaces -/

def coreSpec : List UInt8 := [0x63, 0x6F, 0x72, 0x65]

def ocRsrvdInterfaceDefault : CString :=
  ⟨[0x6F, 0x69, 0x63, 0x2E, 0x69, 0x66, 0x2E, 0x62, 0x61, 0x73, 0x65, 0x6C, 0x69, 0x6E, 0x65],
    by decide⟩

def validateResourceTypeInterface (resourceItemName : CString) : Bool :=
  if coreSpec.isPrefixOf resourceItemName.bytes then
    (resourceItemName.bytes.drop coreSpec.length).all (fun byte =>
      byte = 0x2E ∨ byte = 0x2D ∨ (0x61 ≤ byte ∧ byte ≤ 0x7A) ∨ (0x30 ≤ byte ∧ byte ≤ 0x39))
  else
    resourceItemName.bytes.all (fun byte =>
      byte ≠ 0x20 ∧ byte ≠ 0x09 ∧ byte ≠ 0x0D ∧ byte ≠ 0x0A)

def insertResourceType (rsrcType : List CString) (resourceType : CString) : List CString :=
  if resourceType ∈ rsrcType then rsrcType else rsrcType ++ [resourceType]

def bindResourceTypeToResource (memory : Bool) (resourceTypeName : Option CString)
    (resource : OCResource) : OCStackResult × OCResource :=
  match resourceTypeName with
  | none => (.invalidParam, resource)
  | some resourceTypeName =>
    if validateResourceTypeInterface resourceTypeName = false then (.invalidParam, resource)
    else if memory = false then (.noMemory, resource)
    else
      (.ok, { resource with
        rsrcType := insertResourceType resource.rsrcType resourceTypeName })

/-- `insertResourceInterface`. The default interface comes first, and is bound first when another is
given; `memoryDefault` is whether there is memory for it. -/
def insertResourceInterface (memoryDefault : Bool) (rsrcInterface : List CString)
    (newInterface : CString) : List CString :=
  match rsrcInterface with
  | [] =>
    if newInterface = ocRsrvdInterfaceDefault then [newInterface]
    else if memoryDefault = false then []
    else [ocRsrvdInterfaceDefault, newInterface]
  | firstInterface :: rest =>
    if newInterface = ocRsrvdInterfaceDefault then
      if firstInterface = ocRsrvdInterfaceDefault then firstInterface :: rest
      else newInterface :: firstInterface :: rest
    else if newInterface ∈ firstInterface :: rest then firstInterface :: rest
    else firstInterface :: rest ++ [newInterface]

def bindResourceInterfaceToResource (memory memoryDefault : Bool)
    (resourceInterfaceName : Option CString) (resource : OCResource) :
    OCStackResult × OCResource :=
  match resourceInterfaceName with
  | none => (.invalidParam, resource)
  | some resourceInterfaceName =>
    if validateResourceTypeInterface resourceInterfaceName = false then
      (.invalidParam, resource)
    else if memory = false then (.noMemory, resource)
    else
      (.ok, { resource with
        rsrcInterface := insertResourceInterface memoryDefault resource.rsrcInterface
          resourceInterfaceName })

/-- `OC_COAP | OC_COAPS` and `OC_COAP_TCP | OC_COAPS_TCP`. -/
def udpFlags : UInt32 := 0x3

def tcpFlags : UInt32 := 0xC

def ocAll : UInt32 := 0xFFFF

variable (tcpAdapter : Bool)

def ocGetSupportedEndpointFlags (givenFlags : UInt32) : UInt32 :=
  (if givenFlags &&& udpFlags ≠ 0 then udpFlags else 0)
    ||| (if tcpAdapter = true ∧ givenFlags &&& tcpFlags ≠ 0 then tcpFlags else 0)

def bindTpsTypeToResource (resourceTpsTypes : UInt32)
    (resource : OCResource) : OCStackResult × OCResource :=
  let supportedTps := ocGetSupportedEndpointFlags tcpAdapter resourceTpsTypes
  if supportedTps = 0 then (.badEndpoint, resource)
  else (.ok, { resource with endpointType := supportedTps })

/-! ## Creating a resource -/

/-- The arguments of `OCCreateResourceWithEp`; `handle` says whether there is a place for the
handle. -/
structure CreateArgs where
  handle : Bool
  resourceTypeName : Option CString
  resourceInterfaceName : Option CString
  uri : Option CString
  resourceProperties : UInt8
  resourceTpsTypes : UInt32

/-- What the allocations give: the address of the resource, and memory for the URI, the type, the
interface and the default interface. -/
structure CreateMemory where
  node : Option ℕ
  uri : Bool
  type : Bool
  interface : Bool
  interfaceDefault : Bool

def maxUriLength : ℕ := 256

def allowedProperties : UInt8 := 0x7F

def ocActive : UInt8 := 0x04

def ocSecure : UInt8 := 0x10

def ocMaskResourceSecure : UInt8 := 0x50

def CreateArgs.interface (args : CreateArgs) : CString :=
  match args.resourceInterfaceName with
  | none => ocRsrvdInterfaceDefault
  | some name => if name.bytes = [] then ocRsrvdInterfaceDefault else name

def validTps : UInt32 :=
  if tcpAdapter = true then udpFlags ||| tcpFlags else udpFlags

def checkCreate (args : CreateArgs) (tree : ResourceTree) : Option OCStackResult :=
  match args.uri with
  | none => some .invalidUri
  | some uri =>
    if uri.bytes = [] ∨ maxUriLength ≤ uri.bytes.length then some .invalidUri
    else if args.handle = false ∨ ∀ name ∈ args.resourceTypeName, name.bytes = [] then
      some .invalidParam
    else if allowedProperties < args.resourceProperties then some .invalidParam
    else if args.resourceTpsTypes < 1 ∨ args.resourceTpsTypes ≠ ocAll
        ∧ validTps tcpAdapter < args.resourceTpsTypes then some .invalidParam
    else if tree.resources.any (fun pointer =>
        (tree.heap pointer).any (·.uri = uri)) then
      some .invalidParam
    else none

/-- What `OCCreateResourceWithEp` does to the resource it has inserted. The URI is there from the
beginning; nobody looks at it before. -/
def setUpResource (memory : CreateMemory) (args : CreateArgs)
    (pointer : OCResource) : OCStackResult × OCResource :=
  if memory.uri = false then (.noMemory, pointer)
  else
    let resourceProperties :=
      if args.resourceProperties &&& ocMaskResourceSecure = 0 then
        args.resourceProperties ||| ocSecure
      else args.resourceProperties
    match bindResourceTypeToResource memory.type args.resourceTypeName
        { pointer with resourceProperties := resourceProperties ||| ocActive } with
    | (.ok, pointer) =>
      match bindResourceInterfaceToResource memory.interface memory.interfaceDefault
          (some args.interface) pointer with
      | (.ok, pointer) => bindTpsTypeToResource tcpAdapter args.resourceTpsTypes pointer
      | failed => failed
    | failed => failed

def blankResource (uri : CString) : OCResource := ⟨none, uri, [], [], [], 0, 0⟩

def ocCreateResourceWithEp (memory : CreateMemory) (args : CreateArgs)
    (tree : ResourceTree) : OCStackResult × ResourceTree :=
  match checkCreate tcpAdapter args tree, args.uri with
  | some result, _ => (result, tree)
  | none, none => (.error, tree)
  | none, some uri =>
    match memory.node with
    | none => (.noMemory, tree)
    | some pointer =>
      let inserted := insertResource pointer (blankResource uri) tree
      let (result, resource) := setUpResource tcpAdapter memory args (blankResource uri)
      let set := { inserted with heap := Function.update inserted.heap pointer (some resource) }
      if result = .ok then (.ok, set)
      else (result, (deleteResource (some pointer) set).2)

def ocBindResource (memory : Bool) (collectionHandle resourceHandle : Option ℕ)
    (tree : ResourceTree) : OCStackResult × ResourceTree :=
  match collectionHandle, resourceHandle with
  | some collectionHandle, some resourceHandle =>
    if collectionHandle = resourceHandle then (.invalidParam, tree)
    else if collectionHandle ∉ tree.resources then (.invalidParam, tree)
    else if memory = false then (.error, tree)
    else
      (.ok, tree.modify collectionHandle (fun collection =>
        { collection with
          rsrcChildResources := collection.rsrcChildResources ++ [resourceHandle] }))
  | _, _ => (.error, tree)

def ocUnBindResource (collectionHandle resourceHandle : Option ℕ) (tree : ResourceTree) :
    OCStackResult × ResourceTree :=
  match collectionHandle, resourceHandle with
  | some collectionHandle, some resourceHandle =>
    if collectionHandle = resourceHandle then (.invalidParam, tree)
    else if collectionHandle ∉ tree.resources then (.invalidParam, tree)
    else if (tree.heap collectionHandle).any (fun collection =>
        resourceHandle ∈ collection.rsrcChildResources) then
      (.ok, tree.modify collectionHandle (fun collection =>
        { collection with
          rsrcChildResources := collection.rsrcChildResources.erase resourceHandle }))
    else (.error, tree)
  | _, _ => (.error, tree)

/-- `OCBindResourceTypeToResource` and `OCBindResourceInterfaceToResource`: find the resource
and bind. -/
def bindToResource (bind : OCResource → OCStackResult × OCResource) (handle : Option ℕ)
    (tree : ResourceTree) : OCStackResult × ResourceTree :=
  match handle with
  | none => (.error, tree)
  | some handle =>
    if handle ∉ tree.resources then (.error, tree)
    else
      match tree.heap handle with
      | none => (.error, tree)
      | some resource =>
        let (result, bound) := bind resource
        (result, tree.modify handle (fun _ => bound))

def ocBindResourceTypeToResource (memory : Bool) (handle : Option ℕ)
    (resourceTypeName : Option CString) : ResourceTree → OCStackResult × ResourceTree :=
  bindToResource (bindResourceTypeToResource memory resourceTypeName) handle

def ocBindResourceInterfaceToResource (memory memoryDefault : Bool) (handle : Option ℕ)
    (resourceInterfaceName : Option CString) : ResourceTree → OCStackResult × ResourceTree :=
  bindToResource (bindResourceInterfaceToResource memory memoryDefault resourceInterfaceName) handle

end Iochibity.Ocf.ResourceList
