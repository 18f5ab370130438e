import FdtBusPkg.DtBus.Device
import FdtBusPkg.Library.Segment

/-!
The DMA interfaces of the devicetree I/O protocol. System memory and the page
map are explicit; the boot services that hand out pool and pages are parameters
with the properties the allocation calls document.
-/
namespace FdtBusPkg

/-- `EFI_DT_IO_PROTOCOL_DMA_OPERATION`; `maximum` is any value that is not an
operation. -/
inductive DmaOperation
  | busMasterRead
  | busMasterWrite
  | busMasterCommonBuffer
  | maximum
  deriving DecidableEq, Repr

/-- `EFI_DT_IO_PROTOCOL_DMA_EXTRA`. -/
structure DmaExtra where
  flags : U64
  maxAddress : U64
  deriving DecidableEq, Repr

def EFI_DT_IO_DMA_WITH_MAX_ADDRESS : U64 := 1
def EFI_DT_IO_DMA_NON_COHERENT : U64 := 2
def KNOWN_CONSTRAINTS : U64 := EFI_DT_IO_DMA_WITH_MAX_ADDRESS ||| EFI_DT_IO_DMA_NON_COHERENT

/-- A pool address, as the `Mapping` handed to the caller. -/
abbrev DmaMapping := Nat

def NO_MAPPING : DmaMapping := 2 ^ 64 - 1

/-- `MAP_INFO`, with its own pool address. -/
structure MapInfo where
  self : DmaMapping
  operation : DmaOperation
  numberOfBytes : Uintn
  numberOfPages : Uintn
  hostAddress : U64
  mappedHostAddress : U64
  deriving DecidableEq, Repr

abbrev EfiMemoryType := U32
def EfiBootServicesData : EfiMemoryType := 4
def EfiRuntimeServicesData : EfiMemoryType := 6

/-- System memory, the pages in use by number, and the `Maps` list of the device. -/
structure DmaState where
  memory : Nat → U8
  pageUsed : Nat → Bool
  maps : List MapInfo

/-- `EFI_SIZE_TO_PAGES`. -/
def efiSizeToPages (size : Uintn) : Uintn :=
  (size >>> 12) + (if size &&& 0xFFF#64 ≠ 0 then 1 else 0)

/-- `EFI_PAGES_TO_SIZE`. -/
def efiPagesToSize (pages : Uintn) : Uintn := pages <<< 12

/-- The allocation services. Pages come from free memory, wholly at or below the
given address; pool blocks in use have distinct addresses. -/
structure BootServices where
  allocatePool : DmaState → Option DmaMapping
  allocatePages : DmaState → EfiMemoryType → U64 → Uintn → EfiResult U64
  pool_ne_noMapping : ∀ s p, allocatePool s = some p → p ≠ 0 ∧ p ≠ NO_MAPPING
  pool_fresh : ∀ s p, allocatePool s = some p → ∀ m ∈ s.maps, m.self ≠ p
  pages_aligned : ∀ s t max pages base, allocatePages s t max pages = .ok base →
    base.toNat % 4096 = 0
  pages_below : ∀ s t max pages base, allocatePages s t max pages = .ok base →
    base.toNat + 4096 * pages.toNat ≤ max.toNat + 1
  pages_free : ∀ s t max pages base, allocatePages s t max pages = .ok base →
    ∀ i < pages.toNat, s.pageUsed (base.toNat / 4096 + i) = false

/-- The first of sixteen pages from which that many are free, at or below the
address. -/
def firstFreePage (s : DmaState) (maxAddress : U64) (pages : Uintn) : Option Nat :=
  (List.range 16).find? fun page =>
    4096 * page + 4096 * pages.toNat ≤ maxAddress.toNat + 1 ∧
      ∀ i < pages.toNat, s.pageUsed (page + i) = false

theorem firstFreePage_some (s : DmaState) (maxAddress : U64) (pages : Uintn) (page : Nat)
    (h : firstFreePage s maxAddress pages = some page) :
    page < 16 ∧ 4096 * page + 4096 * pages.toNat ≤ maxAddress.toNat + 1 ∧
      ∀ i < pages.toNat, s.pageUsed (page + i) = false := by
  have hfits := List.find?_some h
  exact ⟨List.mem_range.mp (List.mem_of_find?_eq_some h), of_decide_eq_true hfits⟩

theorem exists_page_of_map_ok (found : Option Nat) (base : U64)
    (h : (match found with
      | some page => .ok (BitVec.ofNat 64 (4096 * page))
      | none => .error .outOfResources : EfiResult U64) = .ok base) :
    ∃ page, found = some page ∧ base = BitVec.ofNat 64 (4096 * page) := by
  cases found with
  | none => simp at h
  | some page => exact ⟨page, rfl, by simpa using h.symm⟩

/-- A machine of sixteen pages, handed out lowest first. -/
def smallMachine : BootServices where
  allocatePool s := (List.range 16).find? fun p =>
    (p ≠ 0 ∧ p ≠ NO_MAPPING) ∧ ∀ m ∈ s.maps, m.self ≠ p
  allocatePages s _ maxAddress pages :=
    match firstFreePage s maxAddress pages with
    | some page => .ok (BitVec.ofNat 64 (4096 * page))
    | none => .error .outOfResources
  pool_ne_noMapping _ _ h := by
    have hfresh := List.find?_some h
    exact (of_decide_eq_true hfresh).1
  pool_fresh _ _ h := by
    have hfresh := List.find?_some h
    exact (of_decide_eq_true hfresh).2
  pages_aligned s _ maxAddress pages base h := by
    obtain ⟨page, hpage, rfl⟩ := exists_page_of_map_ok _ base h
    have hfree := firstFreePage_some s maxAddress pages page hpage
    rw [BitVec.toNat_ofNat]
    omega
  pages_below s _ maxAddress pages base h := by
    obtain ⟨page, hpage, rfl⟩ := exists_page_of_map_ok _ base h
    have hfree := firstFreePage_some s maxAddress pages page hpage
    rw [BitVec.toNat_ofNat]
    omega
  pages_free s _ maxAddress pages base h i hi := by
    obtain ⟨page, hpage, rfl⟩ := exists_page_of_map_ok _ base h
    have hfree := firstFreePage_some s maxAddress pages page hpage
    have hbase : (BitVec.ofNat 64 (4096 * page)).toNat / 4096 = page := by
      rw [BitVec.toNat_ofNat]
      omega
    rw [hbase]
    exact hfree.2.2 i hi

namespace DmaState

def takePages (s : DmaState) (base : U64) (pages : Uintn) : DmaState :=
  { s with pageUsed := Segment.overlay s.pageUsed (base.toNat / 4096) pages.toNat (fun _ => true) }

/-- `gBS->FreePages`. -/
def freePages (s : DmaState) (base : U64) (pages : Uintn) : DmaState :=
  { s with pageUsed := Segment.overlay s.pageUsed (base.toNat / 4096) pages.toNat (fun _ => false) }

def zeroMem (s : DmaState) (a : U64) (n : Uintn) : DmaState :=
  { s with memory := Segment.overlay s.memory a.toNat n.toNat (fun _ => 0#8) }

def copyMem (s : DmaState) (dst src : U64) (n : Uintn) : DmaState :=
  { s with memory :=
      Segment.overlay s.memory dst.toNat n.toNat (fun i => s.memory (src.toNat + i)) }

@[simp] theorem memory_takePages (s : DmaState) (base : U64) (pages : Uintn) :
    (s.takePages base pages).memory = s.memory := rfl
@[simp] theorem maps_takePages (s : DmaState) (base : U64) (pages : Uintn) :
    (s.takePages base pages).maps = s.maps := rfl
@[simp] theorem memory_freePages (s : DmaState) (base : U64) (pages : Uintn) :
    (s.freePages base pages).memory = s.memory := rfl
@[simp] theorem memory_zeroMem (s : DmaState) (a : U64) (n : Uintn) :
    (s.zeroMem a n).memory = Segment.overlay s.memory a.toNat n.toNat (fun _ => 0#8) := rfl
@[simp] theorem maps_zeroMem (s : DmaState) (a : U64) (n : Uintn) :
    (s.zeroMem a n).maps = s.maps := rfl
@[simp] theorem memory_copyMem (s : DmaState) (dst src : U64) (n : Uintn) :
    (s.copyMem dst src n).memory =
      Segment.overlay s.memory dst.toNat n.toNat (fun i => s.memory (src.toNat + i)) := rfl
@[simp] theorem maps_copyMem (s : DmaState) (dst src : U64) (n : Uintn) :
    (s.copyMem dst src n).maps = s.maps := rfl

end DmaState

section Dma

variable (bs : BootServices)

/-- The highest address a device may reach under the constraints, and whether
the transfer is coherent. -/
def dmaConstraints (device : DtDevice) (extra : Option DmaExtra) : EfiResult (U64 × Bool) :=
  match extra with
  | none => .ok (device.info.maxCpuDmaAddress, device.info.isDmaCoherent)
  | some extra =>
    if extra.flags &&& ~~~ KNOWN_CONSTRAINTS ≠ 0 then
      .error .invalidParameter
    else
      let maxAddress :=
        if extra.flags &&& EFI_DT_IO_DMA_WITH_MAX_ADDRESS ≠ 0 then
          MIN device.info.maxCpuDmaAddress extra.maxAddress
        else
          device.info.maxCpuDmaAddress
      let isCoherent :=
        if extra.flags &&& EFI_DT_IO_DMA_NON_COHERENT ≠ 0 then false
        else device.info.isDmaCoherent
      .ok (maxAddress, isCoherent)

/-- The bounce path of `DtIoMap`. -/
def dtIoMapBounce (operation : DmaOperation) (hostAddress maxAddress : U64)
    (numberOfBytes : Uintn) (s : DmaState) : EfiResult (DtBusAddress × DmaMapping) × DmaState :=
  match bs.allocatePool s with
  | none => (.error .outOfResources, s)
  | some self =>
    let numberOfPages := efiSizeToPages numberOfBytes
    match bs.allocatePages s EfiBootServicesData maxAddress numberOfPages with
    | .error e => (.error e, s)
    | .ok mapped =>
      let s := s.takePages mapped numberOfPages
      let s := s.zeroMem mapped (efiPagesToSize numberOfPages)
      let s :=
        if operation = .busMasterRead then s.copyMem mapped hostAddress numberOfBytes else s
      let info : MapInfo :=
        { self, operation, numberOfBytes, numberOfPages, hostAddress, mappedHostAddress := mapped }
      (.ok (mapped.setWidth 128, self), { s with maps := s.maps ++ [info] })

/-- `none` is a `NULL` pointer; `outputs` says that `DeviceAddress` and `Mapping`
are not `NULL`. -/
def dtIoMap (this : Option DtDevice) (operation : DmaOperation) (hostAddress : U64)
    (extra : Option DmaExtra) (numberOfBytes : Option Uintn) (outputs : Bool)
    (s : DmaState) : EfiResult (DtBusAddress × DmaMapping) × DmaState :=
  match this, numberOfBytes with
  | some device, some numberOfBytes =>
    if operation = .maximum || hostAddress = 0 || !outputs then
      (.error .invalidParameter, s)
    else if device.info.flags &&& DT_DEVICE_NON_IDENTITY_DMA ≠ 0 then
      (.error .unsupported, s)
    else
      match dmaConstraints device extra with
      | .error e => (.error e, s)
      | .ok (maxAddress, isCoherent) =>
        if !isCoherent then
          (.error .unsupported, s)
        else if hostAddress + numberOfBytes - 1 > maxAddress then
          if operation = .busMasterCommonBuffer then
            (.error .invalidParameter, s)
          else
            dtIoMapBounce bs operation hostAddress maxAddress numberOfBytes s
        else
          (.ok (hostAddress.setWidth 128, NO_MAPPING), s)
  | _, _ => (.error .invalidParameter, s)

/-- `mapping = 0` is `NULL`. -/
def dtIoUnmap (this : Option DtDevice) (mapping : DmaMapping) (s : DmaState) :
    EfiStatus × DmaState :=
  if this.isNone || mapping = 0 then
    (.error .invalidParameter, s)
  else if mapping = NO_MAPPING then
    (.ok (), s)
  else
    match s.maps.find? (·.self = mapping) with
    | none => (.error .invalidParameter, s)
    | some info =>
      let s := { s with maps := s.maps.eraseP (·.self = mapping) }
      let s :=
        if info.operation = .busMasterWrite then
          s.copyMem info.hostAddress info.mappedHostAddress info.numberOfBytes
        else
          s
      (.ok (), s.freePages info.mappedHostAddress info.numberOfPages)

def dtIoAllocateBuffer (this : Option DtDevice) (memoryType : EfiMemoryType) (pages : Uintn)
    (extra : Option DmaExtra) (output : Bool) (s : DmaState) : EfiResult U64 × DmaState :=
  match this with
  | none => (.error .invalidParameter, s)
  | some device =>
    if pages = 0 || !output then
      (.error .invalidParameter, s)
    else if device.info.flags &&& DT_DEVICE_NON_IDENTITY_DMA ≠ 0 then
      (.error .unsupported, s)
    else if memoryType ≠ EfiBootServicesData && memoryType ≠ EfiRuntimeServicesData then
      (.error .invalidParameter, s)
    else
      match dmaConstraints device extra with
      | .error e => (.error e, s)
      | .ok (maxAddress, isCoherent) =>
        if !isCoherent then
          (.error .unsupported, s)
        else
          match bs.allocatePages s memoryType maxAddress pages with
          | .error e => (.error e, s)
          | .ok address =>
            (.ok address, (s.takePages address pages).zeroMem address (efiPagesToSize pages))

end Dma

/-- `DtIoFreeBuffer`, over what `FreePages` returns. -/
def dtIoFreeBuffer (this : Option DtDevice) (freePages : EfiStatus) (pages : Uintn)
    (hostAddress : U64) (s : DmaState) : EfiStatus × DmaState :=
  if this.isNone || pages = 0 then
    (.error .invalidParameter, s)
  else
    match freePages with
    | .error e => (.error e, s)
    | .ok _ => (.ok (), s.freePages hostAddress pages)

end FdtBusPkg
