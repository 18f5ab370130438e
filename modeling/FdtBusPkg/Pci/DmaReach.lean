import FdtBusPkg.DtBus.DmaReach
import FdtBusPkg.Pci.RootBridge

/-!
The reach of DMA through a root bridge. The limit it hands down keeps 32-bit
transfers below 4 GB wherever the devicetree layer keeps the limit.
-/
namespace FdtBusPkg

def max32 : Nat := 2 ^ 32 - 1

/-- Transfers through this root bridge that have to stay below 4 GB. -/
def PciOperation.LimitTo32 (operation : PciOperation) (rb : PciRootBridge) : Prop :=
  rb.dmaAbove4G = false ∨ operation = .busMasterRead ∨ operation = .busMasterWrite ∨
    operation = .busMasterCommonBuffer

instance (operation : PciOperation) (rb : PciRootBridge) :
    Decidable (operation.LimitTo32 rb) :=
  inferInstanceAs (Decidable (_ ∨ _ ∨ _ ∨ _))

section RootBridge

variable (bs : BootServices) (rb : PciRootBridge) (operation : PciOperation) (r : DmaRequest)
  (s : DmaState)

def RootBridgeMapBelow4G (outputs : Bool) : Prop :=
  operation.LimitTo32 rb → ∀ address mapping s',
    rootBridgeIoMap bs rb operation r.hostAddress (some r.numberOfBytes) outputs s =
        (.ok (address, mapping), s') →
      WithinReach max32 address.toNat r.numberOfBytes.toNat

/-- An allocation that has to stay below 4 GB lies wholly below it. -/
def RootBridgeBufferBelow4G (memoryType : EfiMemoryType) (pages : Uintn) (output : Bool)
    (attributes : U64) : Prop :=
  (rb.dmaAbove4G = false ∨ attributes &&& EFI_PCI_ATTRIBUTE_DUAL_ADDRESS_CYCLE = 0) →
    ∀ address s',
      rootBridgeIoAllocateBuffer bs rb memoryType pages output attributes s =
          (.ok address, s') →
        WithinReach max32 address.toNat (4096 * pages.toNat)

theorem dmaReach_limit32 (device : DtDevice) :
    dmaReach device (some (limitConstraints true)) =
      min device.info.maxCpuDmaAddress.toNat max32 := rfl

/-- The request is one the devicetree layer is asked to serve, below 4 GB. -/
def RootBridgeServed32 (outputs : Bool) : Prop :=
  operation.LimitTo32 rb ∧ ∃ dtOperation is32, operation.toDma = some (dtOperation, is32) ∧
    DmaServed rb.dtIo (some (limitConstraints true)) dtOperation r.hostAddress outputs

theorem toDma_limitTo32 (dtOperation : DmaOperation) (is32 : Bool)
    (h : operation.toDma = some (dtOperation, is32)) :
    operation.LimitTo32 rb ↔ (is32 || !rb.dmaAbove4G) = true := by
  cases operation <;> cases hdma : rb.dmaAbove4G <;>
    simp_all [PciOperation.toDma, PciOperation.LimitTo32]

theorem rootBridgeIoMap_limit32 (outputs : Bool) (dtOperation : DmaOperation) (is32 : Bool)
    (hop : operation.toDma = some (dtOperation, is32)) (h32 : operation.LimitTo32 rb) :
    (rootBridgeIoMap bs rb operation r.hostAddress (some r.numberOfBytes) outputs s).1 =
      (dtIoMap bs (some rb.dtIo) dtOperation r.hostAddress (some (limitConstraints true))
        (some r.numberOfBytes) outputs s).1.map
          (fun (busAddress, mapping) => (busAddress.setWidth 64, mapping)) := by
  have hlimit := (toDma_limitTo32 rb operation dtOperation is32 hop).mp h32
  rw [rootBridgeIoMap]
  split
  · next hargs =>
    have hargs' : (dtOperation = .maximum || r.hostAddress = 0 || !outputs) = true := by
      simp only [Option.isNone_some, Bool.or_false, Bool.or_eq_true, decide_eq_true_eq] at hargs
      rcases hargs with hhost | hout
      · simp [hhost]
      · simp [hout]
    rw [dtIoMap, if_pos hargs']
    rfl
  · next hargs =>
    have hout : outputs = true := by
      simp only [Bool.or_eq_true, not_or, Bool.not_eq_true', Bool.not_eq_false] at hargs
      exact hargs.2
    rw [hop, hout]
    simp only [hlimit]

theorem rootBridgeMapBelow4G_iff (outputs : Bool) :
    RootBridgeMapBelow4G bs rb operation r s outputs ↔
      (RootBridgeServed32 rb operation r outputs →
        ¬ WrapsIntoReach (min rb.dtIo.info.maxCpuDmaAddress.toNat max32) r) := by
  by_cases h32 : operation.LimitTo32 rb
  · rcases hop : operation.toDma with - | ⟨dtOperation, is32⟩
    · refine iff_of_true (fun _ address mapping s' hrun => ?_) ?_
      · rw [rootBridgeIoMap, hop] at hrun
        split at hrun <;> simp at hrun
      · rintro ⟨-, dtOperation, is32, hdma, -⟩
        rw [hop] at hdma
        simp at hdma
    · have hrun := rootBridgeIoMap_limit32 bs rb operation r s outputs dtOperation is32 hop h32
      constructor
      · rintro hbelow ⟨-, dtOperation', is32', hop', hserved⟩ hwraps
        obtain ⟨rfl, rfl⟩ : dtOperation = dtOperation' ∧ is32 = is32' := by
          simpa [hop] using hop'
        rw [← dmaReach_limit32] at hwraps
        rw [dtIoMap_of_wraps bs rb.dtIo _ dtOperation r s outputs hserved hwraps] at hrun
        have hin := hbelow h32 _ _ _ (Prod.ext hrun rfl)
        rw [WrapsIntoReach] at hwraps
        rw [withinReach_iff, BitVec.setWidth_setWidth_of_le _ (by decide), BitVec.setWidth_eq,
          max32] at hin
        omega
      · intro hsound _ address mapping s' hmap
        have hreach : MapWithinReach bs rb.dtIo (some (limitConstraints true)) dtOperation r s
            outputs := by
          refine (mapWithinReach_iff bs rb.dtIo _ dtOperation r s outputs).mpr fun hserved => ?_
          exact hsound ⟨h32, dtOperation, is32, hop, hserved⟩
        rw [hmap] at hrun
        rcases hdma : dtIoMap bs (some rb.dtIo) dtOperation r.hostAddress
          (some (limitConstraints true)) (some r.numberOfBytes) outputs s with ⟨result, t⟩
        rw [hdma] at hrun
        cases result with
        | error e => simp [Except.map] at hrun
        | ok value =>
            obtain ⟨busAddress, busMapping⟩ := value
            obtain ⟨rfl, rfl⟩ : address = busAddress.setWidth 64 ∧ mapping = busMapping := by
              simpa [Except.map] using hrun
            have hin := (hreach _ _ _ hdma).1
            rw [withinReach_iff, dmaReach_limit32] at hin
            rw [withinReach_iff, BitVec.toNat_setWidth]
            have hmod : busAddress.toNat % 2 ^ 64 ≤ busAddress.toNat := Nat.mod_le _ _
            omega
  · exact iff_of_true (fun h => absurd h h32) (fun h => absurd h.1 h32)

theorem rootBridgeBufferBelow4G (memoryType : EfiMemoryType) (pages : Uintn) (output : Bool)
    (attributes : U64) :
    RootBridgeBufferBelow4G bs rb s memoryType pages output attributes := by
  intro hlimit address s' hrun
  have hlimited : (!rb.dmaAbove4G ||
      attributes &&& EFI_PCI_ATTRIBUTE_DUAL_ADDRESS_CYCLE = 0) = true := by
    rw [Bool.or_eq_true, Bool.not_eq_true', decide_eq_true_eq]
    exact hlimit
  simp only [rootBridgeIoAllocateBuffer, hlimited] at hrun
  split at hrun
  · simp at hrun
  split at hrun
  · simp at hrun
  have hin := bufferWithinReach bs rb.dtIo _ s memoryType pages true address s' hrun
  rw [withinReach_iff, dmaReach_limit32] at hin
  rw [withinReach_iff]
  omega

end RootBridge

/-- Mappings are within reach exactly when no served request wraps into it, at
both layers; allocated buffers always are. -/
theorem dma_withinReach_iff (bs : BootServices) (device : DtDevice) (extra : Option DmaExtra)
    (rb : PciRootBridge) (r : DmaRequest) (s : DmaState) (valid : Bool) :
    (∀ operation, MapWithinReach bs device extra operation r s valid ↔
        (DmaServed device extra operation r.hostAddress valid →
          ¬ WrapsIntoReach (dmaReach device extra) r)) ∧
      (∀ memoryType pages,
        BufferWithinReach bs device extra s memoryType pages valid) ∧
      (∀ operation, RootBridgeMapBelow4G bs rb operation r s valid ↔
        (RootBridgeServed32 rb operation r valid →
          ¬ WrapsIntoReach (min rb.dtIo.info.maxCpuDmaAddress.toNat max32) r)) ∧
      ∀ memoryType pages attributes,
        RootBridgeBufferBelow4G bs rb s memoryType pages valid attributes :=
  ⟨fun operation => mapWithinReach_iff bs device extra operation r s valid,
    fun memoryType pages => bufferWithinReach bs device extra s memoryType pages valid,
    fun operation => rootBridgeMapBelow4G_iff bs rb operation r s valid,
    fun memoryType pages attributes =>
      rootBridgeBufferBelow4G bs rb s memoryType pages valid attributes⟩

def device32 : DtDevice := .root ⟨1, 1, 0, 2, 1, 1, 4, true, 0, none, 0xFFFFFFFF⟩

def wrappingRequest : DmaRequest := ⟨0xFFFFFFFFFFFFF000, 0x2000⟩

/-- The request is mapped in place, far outside the device's reach. -/
theorem dtIoMap_wrapped_end :
    ¬ MapWithinReach smallMachine device32 none .busMasterRead wrappingRequest
      ⟨fun _ => 0, fun _ => false, []⟩ true := by
  intro h
  have hin := (h 0xFFFFFFFFFFFFF000 NO_MAPPING _ rfl).1
  exact absurd hin (by decide)

end FdtBusPkg
