import FdtBusPkg.Library.PlacedView
import FdtBusPkg.Pci.Config
import FdtBusPkg.Pci.DeviceMemory

/-!
The configuration spaces behind an ECAM window. Over any session of configuration accesses a
window that starts at bus zero is a space of 4096 registers for each function of its buses, and
what an access of one function does no other function sees.
-/
namespace FdtBusPkg

/-- A byte of the configuration space of a function. -/
structure ConfigRegister where
  bus : Nat
  device : Nat
  function : Nat
  register : Nat
  deriving DecidableEq, Repr

abbrev ConfigSpaces := ConfigRegister → U8

/-- `RootBridgeIoPciRead` or `RootBridgeIoPciWrite` with the buffer. -/
structure ConfigCall extends ConfigRequest where
  read : Bool
  buffer : Nat → U8
  count_ne : count ≠ 0

/-- The bytes of a request, as registers of its function. -/
def ConfigRequest.registers (q : ConfigRequest) (k : Nat) : ConfigRegister :=
  ⟨q.bus, q.device, q.function, q.register + k⟩

namespace EcamBridge

variable (e : EcamBridge)

/-- The registers of the functions on the buses of the bridge. -/
def registers : Set ConfigRegister :=
  {r | r.bus ≤ e.busMax.toNat ∧ r.device ≤ 31 ∧ r.function ≤ 7 ∧ r.register < 4096}

/-- Where a register is, in a window that starts at bus zero. -/
def registerByte (r : ConfigRegister) : RegByte :=
  windowByte e.configReg ((r.bus * 256 + r.device * 8 + r.function) * 4096 + r.register)

/-- A call on a window that is memory: the status, and the buffer afterwards. -/
def configCall (c : ConfigCall) (m : RegByte → U8) :
    (EfiStatus × (Nat → U8)) × (RegByte → U8) :=
  match rootBridgeIoPciAccess e.toPciRootBridge c.read c.width c.address c.count true with
  | .error err => ((.error err, c.buffer), m)
  | .ok a =>
    if c.read then
      let (status, buffer, m) := RegMemory.answering.read a c.buffer m
      ((status, buffer), m)
    else
      let (status, m) := RegMemory.answering.write a c.buffer m
      ((status, c.buffer), m)

def configRefusal (q : ConfigRequest) : Option EfiError :=
  if 2 ^ 64 ≤ q.extent then some .invalidParameter
  else if q.FieldAligned then
    if e.Addressed q ∧ ¬ q.LeavesPage then none else some .invalidParameter
  else some .unsupported

/-- The same call on the configuration spaces. -/
def spacesCall (c : ConfigCall) (spaces : ConfigSpaces) :
    (EfiStatus × (Nat → U8)) × ConfigSpaces :=
  match e.configRefusal c.toConfigRequest with
  | some err => ((.error err, c.buffer), spaces)
  | none =>
    if c.read then
      ((.ok (), PlacedCopy.load c.registers c.extent spaces c.buffer), spaces)
    else
      ((.ok (), c.buffer), PlacedCopy.store c.registers c.buffer c.extent spaces)

end EcamBridge

section Check

variable (e : EcamBridge) (c : ConfigCall)

/-- The request without its bus, for the checks that all operations share. -/
def ConfigCall.unrouted : SpaceRequest where
  space := .mem
  read := c.read
  width := c.width
  address := c.address
  count := c.count
  width_ne := c.width_ne
  count_ne := c.count_ne

theorem unrouted_aligned : c.unrouted.Aligned ↔ c.FieldAligned :=
  addressAligned_iff c.toConfigRequest

theorem checkParameter_configRefused {err : EfiError}
    (h : e.configRefusal c.toConfigRequest = some err) :
    rootBridgeIoCheckParameter e.toPciRootBridge .pciOperation c.width c.address c.count true =
      .error err := by
  rw [EcamBridge.configRefusal] at h
  split_ifs at h with hlong hfield hserved
  · cases h
    exact checkParameter_of_long e.toPciRootBridge c.unrouted _ hlong
  · cases h
    have haligned := (unrouted_aligned c).mpr hfield
    by_cases hend : c.address.toNat + c.extent < 2 ^ 64
    · obtain ⟨err, hrejected⟩ := (checkParameter_pci e c.toConfigRequest).2
        fun hchecked => hserved ⟨hchecked.1, hchecked.2.2⟩
      have hpasses := checkParameter_passes e.toPciRootBridge .pciOperation c.width c.address
        c.count c.width_ne haligned hend
      rw [accessWindow_pci e c.toConfigRequest] at hpasses
      rw [hpasses] at hrejected ⊢
      by_cases haddressed : e.Addressed c.toConfigRequest
      · rw [if_pos haddressed] at hrejected ⊢
        dsimp only at hrejected ⊢
        split_ifs at hrejected ⊢
        · rfl
        · rfl
      · rw [if_neg haddressed]
    · exact checkParameter_of_top e.toPciRootBridge c.unrouted _ hlong haligned
        (Nat.le_of_not_lt hend)
  · cases h
    exact checkParameter_of_misaligned e.toPciRootBridge c.unrouted _ hlong
      fun haligned => hfield ((unrouted_aligned c).mp haligned)

theorem targetByte_windowTarget (reg : DtReg) (n k : Nat) :
    targetByte (windowTarget reg n) k = windowByte reg (n + k) := by
  have hsum : BitVec.ofNat 128 (n + k) = BitVec.ofNat 128 n + BitVec.ofNat 128 k :=
    BitVec.ofNat_add n k
  rw [windowByte, windowTarget]
  cases reg.busDtIo with
  | none =>
      dsimp only
      rw [targetByte, hsum, ← BitVec.add_assoc,
        BitVec.setWidth_add _ (BitVec.ofNat 128 k) (by decide),
        BitVec.setWidth_ofNat_of_le (by decide)]
  | some bus =>
      dsimp only
      rw [targetByte, hsum, BitVec.add_assoc]

theorem pciAccess_accepted (hzero : e.busMin = 0)
    (h : e.configRefusal c.toConfigRequest = none) :
    ∃ a, rootBridgeIoPciAccess e.toPciRootBridge c.read c.width c.address c.count true = .ok a ∧
      a.width = c.width ∧ a.count = c.count ∧
      targetByte a.target = (fun k => e.registerByte (c.registers k)) ∧
      ∀ k < c.extent, c.registers k ∈ e.registers := by
  rw [EcamBridge.configRefusal] at h
  split_ifs at h with hlong hfield hserved
  obtain ⟨haddressed, hleaves⟩ := hserved
  have hextent : 0 < c.extent := extent_pos c.unrouted
  have hend : c.register + c.extent ≤ 4096 := Nat.not_lt.mp hleaves
  have hin : c.InPage := ⟨by omega, hend⟩
  obtain ⟨hoffset, hfits⟩ := ecamOffset_of_busMin_zero e c.toConfigRequest haddressed hin hzero
  have hrun := pciAccess_of_checked e c.toConfigRequest c.read ⟨haddressed, hfield, hleaves⟩
  rw [codeOffset_of_inPage e c.toConfigRequest haddressed hin, if_pos hfits] at hrun
  refine ⟨_, hrun, rfl, rfl, ?_, fun k hk => ?_⟩
  · funext k
    rw [targetByte_windowTarget]
    exact congrArg (windowByte e.configReg) (Nat.add_assoc _ _ _)
  · have hregister : c.register + k < 4096 := by omega
    exact ⟨haddressed.1.2, haddressed.2.1, haddressed.2.2, hregister⟩

/-- Two registers of the bridge are at one byte only if they are the same. -/
theorem registerByte_injOn : Set.InjOn e.registerByte e.registers := by
  rintro ⟨bus, device, function, register⟩ ⟨hbus, hdevice, hfunction, hregister⟩
    ⟨bus', device', function', register'⟩ ⟨hbus', hdevice', hfunction', hregister'⟩ heq
  dsimp only at *
  have hmax := e.busMax_le
  have hinj := windowByte_injOn e.configReg 0 (Nat.le_refl (2 ^ 64))
  have hoffset := @hinj ((bus * 256 + device * 8 + function) * 4096 + register)
    (by rw [Set.mem_Iio]; omega)
    ((bus' * 256 + device' * 8 + function') * 4096 + register') (by rw [Set.mem_Iio]; omega)
    (by simpa [EcamBridge.registerByte] using heq)
  simp only [ConfigRegister.mk.injEq]
  omega

end Check

section Refine

variable {e : EcamBridge} {before m : RegByte → U8} {spaces : ConfigSpaces}

theorem configCall_refines (hzero : e.busMin = 0) (c : ConfigCall) (hplain : c.width.IsPlain)
    (h : PlacedView.Shows e.registerByte e.registers before m spaces) :
    (e.configCall c m).1 = (e.spacesCall c spaces).1 ∧
      PlacedView.Shows e.registerByte e.registers before (e.configCall c m).2
        (e.spacesCall c spaces).2 := by
  cases hrefusal : e.configRefusal c.toConfigRequest with
  | some err =>
      have hrun : rootBridgeIoPciAccess e.toPciRootBridge c.read c.width c.address c.count true =
          .error err := by
        rw [rootBridgeIoPciAccess, checkParameter_configRefused e c hrefusal]
      rw [EcamBridge.configCall, EcamBridge.spacesCall, hrefusal, hrun]
      exact ⟨rfl, h⟩
  | none =>
      obtain ⟨a, hrun, hwidth, hcount, hplace, hregisters⟩ :=
        pciAccess_accepted e c hzero hrefusal
      have hbytes : a.bufferBytes = c.extent := by
        rw [RegAccess.bufferBytes, hwidth, hcount, ConfigRequest.extent,
          regExtent_of_isPlain hplain]
      rw [EcamBridge.configCall, EcamBridge.spacesCall, hrefusal, hrun]
      dsimp only
      cases hread : c.read with
      | true =>
          have hloaded : (RegMemory.answering.read a c.buffer m).2.1 =
              PlacedCopy.load c.registers c.extent spaces c.buffer := by
            rw [← h.load hregisters, ← hplace, ← hbytes]
            rfl
          rw [if_pos rfl, if_pos rfl, ← hloaded]
          exact ⟨rfl, h⟩
      | false =>
          have hstored : (RegMemory.answering.write a c.buffer m).2 =
              PlacedCopy.store (fun k => e.registerByte (c.registers k)) c.buffer c.extent m := by
            rw [← hplace, ← hbytes]
            rfl
          rw [if_neg Bool.false_ne_true, if_neg Bool.false_ne_true]
          refine ⟨rfl, ?_⟩
          dsimp only
          rw [hstored]
          exact h.store (registerByte_injOn e) hregisters c.buffer

end Refine

def firstBusBridge : EcamBridge :=
  { secondBusBridge with
    busMin := 0
    busMax := 1
    busRange := rootBridgeBusRange 0 1
    busMin_le := by decide
    busMax_le := by decide
    busRange_eq := rfl
    extended := rfl
    window_eq := by decide
    window_le := fun _ => by decide
    ancestor := by decide }

theorem word_ne_maximum : DtIoWidth.uint16 ≠ .maximum := by decide

theorem oneWord_ne_zero : (1 : Uintn) ≠ 0 := by decide

def ConfigCall.word (address : U64) (read : Bool) (buffer : Nat → U8) : ConfigCall :=
  ⟨⟨.uint16, address, 1, word_ne_maximum⟩, read, buffer, oneWord_ne_zero⟩

/-- Register 16 of a function is written and read, with that of the next one in between; the
last call is for a bus behind no bridge. -/
def twoFunctionsSession : List ConfigCall :=
  [.word 0x00000010 false fun k => BitVec.ofNat 8 (k + 1),
    .word 0x00000110 true zeroBuffer,
    .word 0x00000010 true zeroBuffer,
    .word 0x02000000 true zeroBuffer]

end FdtBusPkg
