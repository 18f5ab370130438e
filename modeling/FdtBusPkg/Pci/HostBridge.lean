import FdtBusPkg.Library.HeldSpans
import FdtBusPkg.Library.Scan
import FdtBusPkg.Pci.RootBridge

/-!
The host bridge resource allocation protocol of the root bridge driver: the
resource nodes, the phases of PCI enumeration, and the entry points that submit
and report resources. The GCD services are a partition of each address space;
what other owners leave free is an input of every request.
-/
namespace FdtBusPkg

inductive PciResourceType
  | io
  | mem32
  | pMem32
  | mem64
  | pMem64
  | bus
  deriving DecidableEq, Repr

/-- `TypeIo` up to `TypeBus`, without the latter. -/
def resourceTypes : List PciResourceType := [.io, .mem32, .pMem32, .mem64, .pMem64]

inductive ResStatus
  | none
  | submitted
  | allocated
  deriving DecidableEq, Repr

/-- `PCI_RES_NODE`. -/
structure PciResNode where
  base : U64
  length : U64
  alignment : U64
  status : ResStatus
  deriving DecidableEq, Repr

/-- A root bridge with the fixed fields of its host bridge protocol. -/
structure PciHostBridge extends PciRootBridge where
  controller : EfiHandle
  allocationAttributes : U64
  deriving DecidableEq, Repr

inductive GcdSpace
  | memory
  | io
  deriving DecidableEq, Repr

abbrev Gcd := GcdSpace → HeldSpans (2 ^ 64)

/-- The fields the host bridge protocol changes, and the GCD. -/
structure HostBridgeState where
  nodes : PciResourceType → PciResNode
  resourceSubmitted : Bool
  canRestart : Bool
  gcd : Gcd

def ALIGN_VALUE (value alignment : U64) : U64 :=
  value + ((alignment - value) &&& (alignment - 1))

/-- `TO_HOST_ADDRESS` and `TO_DEVICE_ADDRESS`. -/
def toHostAddress (deviceAddress translationOffset : U64) : U64 :=
  deviceAddress - translationOffset
def toDeviceAddress (hostAddress translationOffset : U64) : U64 :=
  hostAddress + translationOffset

def lowBitSet64 (operand : U64) : Uintn :=
  match (List.range 64).find? (fun i => operand.getLsbD i) with
  | some i => BitVec.ofNat 64 i
  | none => -1

def getPowerOfTwo64 (operand : U64) : U64 :=
  if operand = 0 then 0 else BitVec.twoPow 64 (Nat.log2 operand.toNat)

/-- `[base, base + length)` as a region. -/
def gcdRegion (base length : U64) : Span := ⟨base.toNat, length.toNat⟩

/-- `AllocateMemorySpace` and `AllocateIoSpace` at a given address; `free` says what other
owners leave free. -/
def gcdAllocate (free : GcdSpace → Span → Bool) (space : GcdSpace) (length base : U64)
    (gcd : Gcd) : Option Gcd :=
  if free space (gcdRegion base length) then
    ((gcd space).allocate (gcdRegion base length)).map (Function.update gcd space)
  else
    none

/-- `FreeMemorySpace` and `FreeIoSpace`. -/
def gcdFree (space : GcdSpace) (base length : U64) (gcd : Gcd) : EfiResult Gcd :=
  match (gcd space).release (gcdRegion base length) with
  | some partition => .ok (Function.update gcd space partition)
  | none => .error .notFound

/-- One condition of the `while` loop of `AllocateResource`. -/
def searchInside (length limit : U64) (base : U64) : Bool := base + length ≤ limit + 1

/-- `none` stands for a search that never ends: after `2 ^ 64` refusals every address it
comes to has been refused before. -/
def allocateResource (free : GcdSpace → Span → Bool) (mmio : Bool)
    (length bitsOfAlignment baseAddress limit : U64) (gcd : Gcd) : Option (U64 × Gcd) :=
  if baseAddress < limit then
    let step := (1 : U64) <<< bitsOfAlignment
    let space := if mmio then .memory else .io
    (Scan.run (· + step) (searchInside length limit)
        (fun base => gcdAllocate free space length base gcd) (2 ^ 64)
        (ALIGN_VALUE baseAddress step)).map
      fun found => found.getD (MAX_UINT64, gcd)
  else
    some (MAX_UINT64, gcd)

def getTranslationByResourceType (bridge : PciRootBridge) : PciResourceType → U64
  | .io => bridge.ioRange.rt
  | .mem32 => bridge.memRange.rt
  | .pMem32 => bridge.pMemRange.rt
  | .mem64 => bridge.memAbove4GRange.rt
  | .pMem64 => bridge.pMemAbove4GRange.rt
  | .bus => bridge.busRange.rt

inductive EnumerationPhase
  | beginEnumeration
  | beginBusAllocation
  | endBusAllocation
  | beginResourceAllocation
  | allocateResources
  | setResources
  | freeResources
  | endResourceAllocation
  | endEnumeration
  | maximum
  deriving DecidableEq, Repr

section AllocateResources

variable (bridge : PciHostBridge)

def allocateMemory (free : GcdSpace → Span → Bool) (node : PciResNode) (maxBits : U64)
    (range : DtRange) (gcd : Gcd) : Option (U64 × Gcd) :=
  allocateResource free true node.length (MIN maxBits (lowBitSet64 (node.alignment + 1)))
    (toHostAddress (ALIGN_VALUE range.rb (node.alignment + 1)) range.rt)
    (toHostAddress range.rl range.rt) gcd

/-- The `switch` over the type of the node. -/
def allocateNode (free : GcdSpace → Span → Bool) (index : PciResourceType) (node : PciResNode)
    (gcd : Gcd) : Option (U64 × Gcd) :=
  match index with
  | .io => do
    let (base, gcd) ← allocateResource free false node.length
      (MIN 15 (lowBitSet64 (node.alignment + 1)))
      (ALIGN_VALUE bridge.ioRange.rb (node.alignment + 1)) bridge.ioRange.rl gcd
    if base ≠ MAX_UINT64 then
      some (toHostAddress base bridge.ioRange.rt, gcd)
    else
      some (base, gcd)
  | .mem64 => do
    let (base, gcd) ← allocateMemory free node 63 bridge.memAbove4GRange gcd
    -- Memory below 4 GB is tried when there is none above.
    if base ≠ MAX_UINT64 then some (base, gcd)
    else allocateMemory free node 31 bridge.memRange gcd
  | .mem32 => allocateMemory free node 31 bridge.memRange gcd
  | .pMem64 => do
    let (base, gcd) ← allocateMemory free node 63 bridge.pMemAbove4GRange gcd
    if base ≠ MAX_UINT64 then some (base, gcd)
    else allocateMemory free node 31 bridge.pMemRange gcd
  | .pMem32 => allocateMemory free node 31 bridge.pMemRange gcd
  | .bus => some (MAX_UINT64, gcd)

def HostBridgeState.setNode (s : HostBridgeState) (t : PciResourceType) (node : PciResNode) :
    HostBridgeState :=
  { s with nodes := Function.update s.nodes t node }

/-- The body of the loop over `Index2`, on `MaxAlignment` and `Index`. -/
def selectStep (nodes : PciResourceType → PciResNode) (handled : PciResourceType → Bool)
    (best : U64 × Option PciResourceType) (index2 : PciResourceType) :
    U64 × Option PciResourceType :=
  if handled index2 then best
  else if best.1 ≤ (nodes index2).alignment then ((nodes index2).alignment, some index2)
  else best

def selectNode (nodes : PciResourceType → PciResNode) (handled : PciResourceType → Bool) :
    Option PciResourceType :=
  (resourceTypes.foldl (selectStep nodes handled) (0, none)).2

def attemptNode (free : GcdSpace → Span → Bool) (index : PciResourceType)
    (s : EfiStatus × HostBridgeState) : Option (EfiStatus × HostBridgeState) :=
  let node := s.2.nodes index
  if getTranslationByResourceType bridge.toPciRootBridge index &&& node.alignment ≠ 0 then
    some (.error .outOfResources, s.2)
  else
    match allocateNode bridge free index node s.2.gcd with
    | none => none
    | some (base, gcd) =>
      if base ≠ MAX_UINT64 then
        some (s.1, { s.2 with gcd := gcd }.setNode index
          { node with base := base, status := .allocated })
      else
        some (.error .outOfResources, { s.2 with gcd := gcd })

/-- The body of the loop over `Index1`, on the nodes handled so far, the return status and
the state. `selectNode` gives a node whenever the loop comes to it. -/
def allocateStep (free : PciResourceType → GcdSpace → Span → Bool)
    (s : (PciResourceType → Bool) × EfiStatus × HostBridgeState) (index1 : PciResourceType) :
    Option ((PciResourceType → Bool) × EfiStatus × HostBridgeState) :=
  let (handled, s) := s
  if (s.2.nodes index1).status = .none then
    some (Function.update handled index1 true, s)
  else
    match selectNode s.2.nodes handled with
    | none => some (handled, s)
    | some index =>
      (attemptNode bridge (free index1) index s).map (Function.update handled index true, ·)

def PciResNode.clearLength (node : PciResNode) : PciResNode :=
  if node.status ≠ .allocated then { node with length := 0 } else node

/-- The loop that clears the length of every node that got nothing. -/
def clearLengths (s : HostBridgeState) : HostBridgeState :=
  resourceTypes.foldl (fun s index => s.setNode index (s.nodes index).clearLength) s

/-- What other owners leave free may change from one node of the loop to the next. -/
def allocateResourcesPhase (free : PciResourceType → GcdSpace → Span → Bool)
    (s : HostBridgeState) : Option (EfiStatus × HostBridgeState) :=
  if !s.resourceSubmitted then
    some (.error .notReady, s)
  else
    (resourceTypes.foldlM (allocateStep bridge free) (fun _ => false, .ok (), s)).map
      fun (_, status, s) => (status, clearLengths s)

end AllocateResources

section Phases

variable (bridge : PciHostBridge)

def PciResourceType.space : PciResourceType → GcdSpace
  | .io => .io
  | _ => .memory

/-- The address of a node in its space: I/O nodes keep the host address. -/
def gcdBase (index : PciResourceType) (base : U64) : U64 :=
  if index = .io then toDeviceAddress base bridge.ioRange.rt else base

def PciResNode.reset (node : PciResNode) : PciResNode :=
  { node with base := 0, length := 0, alignment := 0, status := .none }

def beginEnumerationPhase (s : HostBridgeState) : EfiStatus × HostBridgeState :=
  if !s.canRestart then
    (.error .notReady, s)
  else
    (.ok (), { s with nodes := fun index => (s.nodes index).reset, resourceSubmitted := false })

/-- The loop over the nodes. `status` is `ReturnStatus`, which nothing has set before the
first node is freed. -/
def freeResourcesLoop : List PciResourceType → EfiStatus → HostBridgeState →
    EfiStatus × HostBridgeState
  | [], status, s => (status, { s with resourceSubmitted := false, canRestart := true })
  | index :: rest, status, s =>
    let node := s.nodes index
    if node.status = .allocated then
      match gcdFree index.space (gcdBase bridge index node.base) node.length s.gcd with
      | .error e => (.error e, s)
      | .ok gcd =>
        freeResourcesLoop rest (.ok ()) ({ s with gcd := gcd }.setNode index node.reset)
    else
      freeResourcesLoop rest status s

/-- `this` says that `This` is not `NULL`; `leftover` is what the uninitialised
`ReturnStatus` happens to hold. -/
def hostBridgeNotifyPhase (free : PciResourceType → GcdSpace → Span → Bool)
    (leftover : EfiStatus) (this : Bool) (phase : EnumerationPhase) (s : HostBridgeState) :
    Option (EfiStatus × HostBridgeState) :=
  if !this then
    some (.error .invalidParameter, s)
  else
    match phase with
    | .beginEnumeration => some (beginEnumerationPhase s)
    | .beginBusAllocation => some (.ok (), { s with canRestart := false })
    | .allocateResources => allocateResourcesPhase bridge free s
    | .freeResources => some (freeResourcesLoop bridge resourceTypes leftover s)
    | .endBusAllocation | .beginResourceAllocation | .setResources | .endResourceAllocation
    | .endEnumeration => some (.ok (), s)
    | .maximum => some (.error .invalidParameter, s)

end Phases

def ACPI_ADDRESS_SPACE_TYPE_MEM : U8 := 0x00
def ACPI_ADDRESS_SPACE_TYPE_IO : U8 := 0x01
def ACPI_ADDRESS_SPACE_TYPE_BUS : U8 := 0x02
def ACPI_END_TAG_DESCRIPTOR : U8 := 0x79
def EFI_ACPI_MEMORY_RESOURCE_SPECIFIC_FLAG_CACHEABLE_PREFETCHABLE : U8 := 0x06
def EFI_PCI_HOST_BRIDGE_COMBINE_MEM_PMEM : U64 := 1
def EFI_RESOURCE_SATISFIED : U64 := 0
def PCI_RESOURCE_LESS : U64 := 0xFFFFFFFFFFFFFFFE

/-- `EFI_ACPI_ADDRESS_SPACE_DESCRIPTOR`, without its fixed header. -/
structure AcpiDescriptor where
  resType : U8
  specificFlag : U8
  addrSpaceGranularity : U64
  addrRangeMin : U64
  addrRangeMax : U64
  addrTranslationOffset : U64
  addrLen : U64
  deriving DecidableEq, Repr

/-- A configuration buffer: its leading address space descriptors, and the tag of the
descriptor after them. -/
structure AcpiConfiguration where
  descriptors : List AcpiDescriptor
  endDesc : U8
  deriving DecidableEq, Repr

namespace AcpiDescriptor

def prefetchable (d : AcpiDescriptor) : Bool :=
  d.specificFlag &&& EFI_ACPI_MEMORY_RESOURCE_SPECIFIC_FLAG_CACHEABLE_PREFETCHABLE ≠ 0

def nodeType (d : AcpiDescriptor) : PciResourceType :=
  if d.resType = ACPI_ADDRESS_SPACE_TYPE_MEM then
    if d.addrSpaceGranularity = 32 then
      if d.prefetchable then .pMem32 else .mem32
    else
      if d.prefetchable then .pMem64 else .mem64
  else
    .io

end AcpiDescriptor

section Configuration

variable (bridge : PciHostBridge)

def checkDescriptor (d : AcpiDescriptor) : EfiStatus :=
  let checkAlignment : EfiStatus :=
    if getPowerOfTwo64 (d.addrRangeMax + 1) ≠ d.addrRangeMax + 1 then .error .invalidParameter
    else .ok ()
  if d.resType > ACPI_ADDRESS_SPACE_TYPE_BUS then
    .error .invalidParameter
  else if d.resType = ACPI_ADDRESS_SPACE_TYPE_MEM then
    if d.addrSpaceGranularity ≠ 32 ∧ d.addrSpaceGranularity ≠ 64 then
      .error .invalidParameter
    else if d.addrSpaceGranularity = 32 ∧ d.addrLen ≥ SIZE_4GB then
      .error .invalidParameter
    else if bridge.allocationAttributes &&& EFI_PCI_HOST_BRIDGE_COMBINE_MEM_PMEM ≠ 0 ∧
        d.prefetchable then
      .error .invalidParameter
    else
      checkAlignment
  else if d.resType = ACPI_ADDRESS_SPACE_TYPE_IO then
    checkAlignment
  else
    -- A bus descriptor meets an assertion, which release builds leave out.
    .ok ()

def recordDescriptor (s : HostBridgeState) (d : AcpiDescriptor) : HostBridgeState :=
  s.setNode d.nodeType
    { s.nodes d.nodeType with
      length := d.addrLen, alignment := d.addrRangeMax, status := .submitted }

/-- `none` is a `NULL` configuration. -/
def hostBridgeSubmitResources (this : Bool) (rootBridgeHandle : EfiHandle)
    (configuration : Option AcpiConfiguration) (s : HostBridgeState) :
    EfiStatus × HostBridgeState :=
  match this, configuration with
  | true, some configuration =>
    if bridge.controller ≠ rootBridgeHandle then
      (.error .invalidParameter, s)
    else
      match configuration.descriptors.forM (checkDescriptor bridge) with
      | .error e => (.error e, s)
      | .ok () =>
        if configuration.endDesc ≠ ACPI_END_TAG_DESCRIPTOR then
          (.error .invalidParameter, s)
        else
          (.ok (), { configuration.descriptors.foldl recordDescriptor s with
            resourceSubmitted := true })
  | _, _ => (.error .invalidParameter, s)

def hostBridgeSetBusNumbers (this : Bool) (rootBridgeHandle : EfiHandle)
    (configuration : Option AcpiConfiguration) (s : HostBridgeState) :
    EfiStatus × HostBridgeState :=
  match this, configuration with
  | true, some configuration =>
    if bridge.controller ≠ rootBridgeHandle then
      (.error .invalidParameter, s)
    else
      match configuration.descriptors with
      | [d] =>
        if d.resType ≠ ACPI_ADDRESS_SPACE_TYPE_BUS ||
            configuration.endDesc ≠ ACPI_END_TAG_DESCRIPTOR then
          (.error .invalidParameter, s)
        else if d.addrLen = 0 then
          (.error .invalidParameter, s)
        else if d.addrRangeMin < bridge.busRange.rb ||
            d.addrRangeMin + d.addrLen - 1 > bridge.busRange.rl then
          (.error .invalidParameter, s)
        else
          (.ok (), s.setNode .bus { s.nodes .bus with
            base := d.addrRangeMin, length := d.addrLen, status := .allocated })
      | _ => (.error .invalidParameter, s)
  | _, _ => (.error .invalidParameter, s)

/-- Resource type, flag and granularity of the descriptors of a node. -/
def PciResourceType.acpiFields : PciResourceType → U8 × U8 × U64
  | .io => ( ACPI_ADDRESS_SPACE_TYPE_IO, 0, 0)
  | .mem32 => (ACPI_ADDRESS_SPACE_TYPE_MEM, 0, 32)
  | .pMem32 =>
    (ACPI_ADDRESS_SPACE_TYPE_MEM, EFI_ACPI_MEMORY_RESOURCE_SPECIFIC_FLAG_CACHEABLE_PREFETCHABLE, 32)
  | .mem64 => (ACPI_ADDRESS_SPACE_TYPE_MEM, 0, 64)
  | .pMem64 =>
    (ACPI_ADDRESS_SPACE_TYPE_MEM, EFI_ACPI_MEMORY_RESOURCE_SPECIFIC_FLAG_CACHEABLE_PREFETCHABLE, 64)
  | .bus => (ACPI_ADDRESS_SPACE_TYPE_BUS, 0, 0)

/-- What `GetProposedResources` reports for a node. -/
def proposedDescriptor (s : HostBridgeState) (index : PciResourceType) : Option AcpiDescriptor :=
  let node := s.nodes index
  let (resType, specificFlag, granularity) := index.acpiFields
  if node.status ≠ .none then
    some {
      resType := resType
      specificFlag := specificFlag
      addrSpaceGranularity := granularity
      addrRangeMin := toDeviceAddress node.base
        (getTranslationByResourceType bridge.toPciRootBridge index)
      addrRangeMax := 0
      addrTranslationOffset :=
        if node.status = .allocated then EFI_RESOURCE_SATISFIED else PCI_RESOURCE_LESS
      addrLen := node.length }
  else
    none

/-- `pool` says that the buffer can be allocated. -/
def hostBridgeGetProposedResources (pool : Bool) (this : Bool) (rootBridgeHandle : EfiHandle)
    (output : Bool) (s : HostBridgeState) : EfiResult AcpiConfiguration :=
  if !this || !output then
    .error .invalidParameter
  else if bridge.controller ≠ rootBridgeHandle then
    .error .invalidParameter
  else if !pool then
    .error .outOfResources
  else
    .ok ⟨resourceTypes.filterMap (proposedDescriptor bridge s), ACPI_END_TAG_DESCRIPTOR⟩

/-- What `Configuration` reports for a node. -/
def configurationDescriptor (s : HostBridgeState) (index : PciResourceType) :
    Option AcpiDescriptor :=
  let node := s.nodes index
  let (resType, specificFlag, granularity) := index.acpiFields
  if node.status ≠ .allocated then
    none
  else
    some {
      resType := resType
      specificFlag := specificFlag
      addrSpaceGranularity := granularity
      addrRangeMin := node.base
      addrRangeMax := node.base + node.length - 1
      addrTranslationOffset := getTranslationByResourceType bridge.toPciRootBridge index
      addrLen := node.length }

def rootBridgeIoConfiguration (s : HostBridgeState) : AcpiConfiguration :=
  ⟨(resourceTypes ++ [PciResourceType.bus]).filterMap (configurationDescriptor bridge s),
    ACPI_END_TAG_DESCRIPTOR⟩

end Configuration

/-- The state `HostBridgeInit` leaves. -/
def hostBridgeInit : HostBridgeState where
  nodes := fun _ => ⟨0, 0, 0, .none⟩
  resourceSubmitted := false
  canRestart := true
  gcd := fun _ => HeldSpans.empty (2 ^ 64)

end FdtBusPkg
