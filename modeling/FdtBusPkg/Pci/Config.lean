import FdtBusPkg.Pci.AccessCheck

/-!
Configuration accesses through an ECAM window. The page of a function is exact
when the window starts at bus zero, and a register is checked for alignment in
the low byte of the packed address, whichever of its two encodings is used.
-/
namespace FdtBusPkg

/-- A root bridge as `RootBridgeDtInit` leaves it, with an ECAM window for exactly
its buses. -/
structure EcamBridge extends PciRootBridge where
  busMin : U32
  busMax : U32
  busMin_le : busMin.toNat ≤ busMax.toNat
  busMax_le : busMax.toNat ≤ 255
  busRange_eq : busRange = rootBridgeBusRange busMin busMax
  extended : noExtendedConfigSpace = false
  window_eq : configReg.length.toNat = (busMax.toNat - busMin.toNat + 1) * 2 ^ 20
  window_le : configReg.busDtIo = none →
    configReg.translatedBase.toNat + configReg.length.toNat ≤ 2 ^ 64
  ancestor : configReg.busDtIo ≠ some dtIo.info.dtIo

/-- A configuration request of a valid width. -/
structure ConfigRequest where
  width : DtIoWidth
  address : U64
  count : Uintn
  width_ne : width ≠ .maximum

namespace ConfigRequest

variable (q : ConfigRequest)

def bus : Nat := (pciBus q.address).toNat
def device : Nat := (pciDevice q.address).toNat
def function : Nat := (pciFunction q.address).toNat
def register : Nat := (pciRegisterNumber q.address).toNat

/-- Bytes of register space the request covers. -/
def extent : Nat := regExtent q.width q.count

def Aligned : Prop := q.register % q.width.bytes = 0

/-- The register and the range it starts lie in the page. -/
def InPage : Prop := q.register < 4096 ∧ q.register + q.extent ≤ 4096

def LeavesPage : Prop := 4096 < q.register + q.extent

/-- The `Register` field is aligned, also where it is not the register's number. -/
def FieldAligned : Prop := (pciRegister q.address).toNat % q.width.bytes = 0

instance : Decidable q.Aligned := inferInstanceAs (Decidable (_ = _))
instance : Decidable q.InPage := inferInstanceAs (Decidable (_ ∧ _))
instance : Decidable q.LeavesPage := inferInstanceAs (Decidable (_ < _))
instance : Decidable q.FieldAligned := inferInstanceAs (Decidable (_ = _))

end ConfigRequest

namespace EcamBridge

variable (e : EcamBridge) (q : ConfigRequest)

def BusInRange : Prop := e.busMin.toNat ≤ q.bus ∧ q.bus ≤ e.busMax.toNat

def Addressed : Prop := e.BusInRange q ∧ q.device ≤ 31 ∧ q.function ≤ 7

/-- Offset of the register in its function's page of the window. -/
def exactOffset : Nat :=
  ((q.bus - e.busMin.toNat) * 256 + q.device * 8 + q.function) * 4096 + q.register

instance : Decidable (e.BusInRange q) := inferInstanceAs (Decidable (_ ∧ _))
instance : Decidable (e.Addressed q) := inferInstanceAs (Decidable (_ ∧ _ ∧ _))

end EcamBridge

/-- Offset of the register in a window that starts at bus zero. -/
def ecamOffset (q : ConfigRequest) : Nat :=
  (q.bus * 256 + q.device * 8 + q.function) * 4096 + q.register

/-- The bytes an access touches, in the address space it is forwarded to. -/
def RegAccess.touched (a : RegAccess) : Span :=
  match a.target with
  | .cpuIo2 address => ⟨address.toNat, regExtent a.width a.count⟩
  | .busDtIo _ _ offset => ⟨offset.toNat, regExtent a.width a.count⟩
  | .childReg _ _ offset => ⟨offset.toNat, regExtent a.width a.count⟩

section Fields

variable (q : ConfigRequest)

theorem bus_lt : q.bus < 256 := (pciBus q.address).isLt

theorem toNat_pciRegister (a : U64) : (pciRegister a).toNat = a.toNat % 256 := by
  rw [pciRegister, BitVec.extractLsb'_toNat, Nat.shiftRight_zero]

theorem toNat_pciExtendedRegister (a : U64) :
    (pciExtendedRegister a).toNat = a.toNat / 2 ^ 32 := by
  have ha := a.isLt
  rw [pciExtendedRegister, BitVec.extractLsb'_toNat, Nat.shiftRight_eq_div_pow]
  omega

theorem register_le (a : U64) : (pciRegisterNumber a).toNat ≤ a.toNat := by
  rw [pciRegisterNumber]
  split
  · rw [toNat_pciExtendedRegister]
    omega
  · rw [BitVec.toNat_setWidth, toNat_pciRegister]
    omega

/-- A packed address close to the top of 64 bits has a register far outside the page. -/
theorem register_of_top (a : U64) (h : 2 ^ 64 - 4096 ≤ a.toNat) :
    4096 < (pciRegisterNumber a).toNat := by
  have ha := a.isLt
  have hext := toNat_pciExtendedRegister a
  have hne : pciExtendedRegister a ≠ 0 := by
    intro hzero
    rw [hzero] at hext
    have hzero32 : (0 : U32).toNat = 0 := rfl
    omega
  rw [pciRegisterNumber, if_pos hne, hext]
  omega

/-- The alignment of the packed address is that of its `Register` field. -/
theorem addressAligned_iff :
    q.address.toNat % q.width.bytes = 0 ↔ q.FieldAligned := by
  have hdvd : q.width.bytes ∣ 256 := by
    cases q.width <;> decide
  rw [ConfigRequest.FieldAligned, toNat_pciRegister, Nat.mod_mod_of_dvd _ hdvd]

theorem toNat_ecamAddress (hdevice : q.device ≤ 31) (hfunction : q.function ≤ 7)
    (hregister : q.register < 4096) :
    (PCI_ECAM_ADDRESS (pciBus q.address) (pciDevice q.address) (pciFunction q.address)
      (pciRegisterNumber q.address)).toNat = ecamOffset q := by
  have hbus := bus_lt q
  rw [PCI_ECAM_ADDRESS, ecamOffset]
  simp only [BitVec.toNat_or, BitVec.toNat_shiftLeft, BitVec.toNat_setWidth,
    Nat.shiftLeft_eq]
  change ((q.bus % 2 ^ 32 * 2 ^ 20 % 2 ^ 32 ||| q.device % 2 ^ 32 * 2 ^ 15 % 2 ^ 32) |||
    q.function % 2 ^ 32 * 2 ^ 12 % 2 ^ 32) ||| q.register = _
  have hshift (x k : Nat) (h : x * 2 ^ k < 2 ^ 32) (hx : x < 2 ^ 32) :
      x % 2 ^ 32 * 2 ^ k % 2 ^ 32 = 2 ^ k * x := by
    rw [Nat.mod_eq_of_lt hx, Nat.mod_eq_of_lt h, Nat.mul_comm]
  rw [hshift q.bus 20 (by omega) (by omega), hshift q.device 15 (by omega) (by omega),
    hshift q.function 12 (by omega) (by omega)]
  have hdev : 2 ^ 20 * q.bus ||| 2 ^ 15 * q.device = 2 ^ 15 * (32 * q.bus + q.device) := by
    rw [← Nat.two_pow_add_eq_or_of_lt (by omega)]
    omega
  have hfun : 2 ^ 15 * (32 * q.bus + q.device) ||| 2 ^ 12 * q.function =
      2 ^ 12 * (256 * q.bus + 8 * q.device + q.function) := by
    rw [← Nat.two_pow_add_eq_or_of_lt (by omega)]
    omega
  rw [hdev, hfun, ← Nat.two_pow_add_eq_or_of_lt (by omega)]
  omega

end Fields

section Access

variable (e : EcamBridge) (q : ConfigRequest)

theorem toNat_busRange_rb : e.busRange.rb.toNat = e.busMin.toNat := by
  have hmin := e.busMin.isLt
  rw [e.busRange_eq]
  simp only [rootBridgeBusRange, DtRange.rb, BitVec.toNat_setWidth]
  omega

theorem toNat_busRange_rl : e.busRange.rl.toNat = e.busMax.toNat := by
  have hle := e.busMin_le
  have hmax := e.busMax_le
  have hone : (1 : U32).toNat = 1 := rfl
  have hone128 : (1 : U128).toNat = 1 := rfl
  rw [e.busRange_eq]
  simp only [rootBridgeBusRange, DtRange.rl, BitVec.toNat_setWidth, BitVec.toNat_sub,
    BitVec.toNat_add, hone, hone128]
  omega

theorem accessWindow_pci (length : U64) :
    accessWindow e.toPciRootBridge .pciOperation q.address length =
      if e.Addressed q then
        .ok ((pciRegisterNumber q.address).setWidth 64, 0, 0xFFF, e.configReg)
      else
        .error .invalidParameter := by
  have hbus : ((pciBus q.address).setWidth 64 : U64).toNat = q.bus := by
    have hlt := bus_lt q
    rw [BitVec.toNat_setWidth]
    exact Nat.mod_eq_of_lt (by omega)
  have hdevice : (pciDevice q.address > PCI_MAX_DEVICE) ↔ ¬ q.device ≤ 31 := by
    rw [gt_iff_lt, BitVec.lt_def, ConfigRequest.device, Nat.not_le]
    rfl
  have hfunction : (pciFunction q.address > PCI_MAX_FUNC) ↔ ¬ q.function ≤ 7 := by
    rw [gt_iff_lt, BitVec.lt_def, ConfigRequest.function, Nat.not_le]
    rfl
  have hmin : ((pciBus q.address).setWidth 64 < e.busRange.rb) ↔
      ¬ e.busMin.toNat ≤ q.bus := by
    rw [BitVec.lt_def, hbus, toNat_busRange_rb, Nat.not_le]
  have hmax : ((pciBus q.address).setWidth 64 > e.busRange.rl) ↔
      ¬ q.bus ≤ e.busMax.toNat := by
    rw [gt_iff_lt, BitVec.lt_def, hbus, toNat_busRange_rl, Nat.not_le]
  simp only [accessWindow, Bool.or_eq_true, decide_eq_true_eq, hmin, hmax, hdevice, hfunction,
    e.extended, Bool.false_eq_true, if_false]
  by_cases h : e.Addressed q
  · rw [if_pos h]
    rcases h with ⟨⟨hlow, hhigh⟩, hdev, hfun⟩
    simp [hlow, hhigh, hdev, hfun]
  · rw [if_neg h]
    split
    · rfl
    · next hb =>
      split
      · rfl
      · next hd =>
        rw [not_or, not_not, not_not] at hb hd
        exact absurd ⟨hb, hd⟩ h

/-- The parameter checks pass exactly for an addressed function, an aligned
`Register` field and a range inside the page. -/
theorem checkParameter_pci :
    (e.Addressed q ∧ q.FieldAligned ∧ ¬ q.LeavesPage →
      rootBridgeIoCheckParameter e.toPciRootBridge .pciOperation q.width q.address q.count
        true = .ok e.configReg) ∧
      (¬ (e.Addressed q ∧ q.FieldAligned ∧ ¬ q.LeavesPage) →
        ∃ err, rootBridgeIoCheckParameter e.toPciRootBridge .pciOperation q.width q.address
          q.count true = .error err) := by
  have haligned := addressAligned_iff q
  have hpage : q.LeavesPage ↔ 4096 < (pciRegisterNumber q.address).toNat + q.extent := Iff.rfl
  have hregister := register_le q.address
  by_cases hpassed : q.address.toNat % q.width.bytes = 0 ∧ q.address.toNat + q.extent < 2 ^ 64
  swap
  · refine ⟨fun h => ?_, fun _ =>
      checkParameter_rejects _ .pciOperation q.width q.address q.count q.width_ne hpassed⟩
    have hin := hpage.not.mp h.2.2
    by_contra
    refine hpassed ⟨haligned.mpr h.2.1, ?_⟩
    by_contra hwrap
    have htop := register_of_top q.address (by omega)
    omega
  have hfield : q.FieldAligned := haligned.mp hpassed.1
  have hlength : (BitVec.ofNat 64 q.extent).toNat = q.extent := by
    rw [BitVec.toNat_ofNat]
    omega
  rw [checkParameter_passes _ _ q.width q.address q.count q.width_ne hpassed.1 hpassed.2,
    accessWindow_pci]
  by_cases haddressed : e.Addressed q
  swap
  · rw [if_neg haddressed]
    exact ⟨fun h => absurd h.1 haddressed, fun _ => ⟨_, rfl⟩⟩
  have hlimit : ((pciRegisterNumber q.address).setWidth 64 + BitVec.ofNat 64 q.extent >
      0xFFF + 1) ↔ q.LeavesPage := by
    have hlast : (0xFFF + 1 : U64).toNat = 4096 := rfl
    have hnumber := (pciRegisterNumber q.address).isLt
    rw [gt_iff_lt, BitVec.lt_def, hlast, BitVec.toNat_add, BitVec.toNat_setWidth, hlength, hpage]
    omega
  have hbase : ¬ (pciRegisterNumber q.address).setWidth 64 < (0 : U64) := by
    rw [BitVec.lt_def]
    exact Nat.not_lt_zero _
  rw [ConfigRequest.extent] at hlimit
  simp only [if_pos haddressed, if_neg hbase, hlimit]
  by_cases hout : q.LeavesPage
  · rw [if_pos hout]
    exact ⟨fun h => absurd hout h.2.2, fun _ => ⟨_, rfl⟩⟩
  · rw [if_neg hout]
    exact ⟨fun _ => rfl, fun h => absurd ⟨haddressed, hfield, hout⟩ h⟩

/-- The offset the code accesses in the window. -/
def codeOffset : Nat :=
  (PCI_ECAM_ADDRESS (pciBus q.address) (pciDevice q.address) (pciFunction q.address)
    (pciRegisterNumber q.address)).toNat

/-- A request that passes the checks is forwarded if the window reaches that far. -/
theorem pciAccess_of_checked (read : Bool)
    (hchecked : e.Addressed q ∧ q.FieldAligned ∧ ¬ q.LeavesPage) :
    rootBridgeIoPciAccess e.toPciRootBridge read q.width q.address q.count true =
      if codeOffset q + q.extent ≤ e.configReg.length.toNat then
        .ok ⟨windowTarget e.configReg (codeOffset q), q.width, q.count⟩
      else
        .error .invalidParameter := by
  have hcheck := (checkParameter_pci e q).1 hchecked
  have hlt : codeOffset q < 2 ^ 32 := BitVec.isLt _
  have hextent : q.extent < 2 ^ 64 := by
    have hend := Nat.not_lt.mp hchecked.2.2
    omega
  have hoffset : (PCI_ECAM_ADDRESS (pciBus q.address) (pciDevice q.address)
      (pciFunction q.address) (pciRegisterNumber q.address)).setWidth 128 =
        BitVec.ofNat 128 (codeOffset q) := by
    apply BitVec.eq_of_toNat_eq
    rw [BitVec.toNat_setWidth, BitVec.toNat_ofNat, codeOffset]
  simp only [rootBridgeIoPciAccess, hcheck, hoffset, dtIoReadReg, dtIoWriteReg]
  cases read <;>
    simp only [Bool.false_eq_true, if_true, if_false] <;>
    exact dtIoAccessReg_of_extent _ q.width q.count e.dtIo e.configReg (codeOffset q)
      q.width_ne e.ancestor (by omega) hextent

theorem codeOffset_of_inPage (haddressed : e.Addressed q) (hin : q.InPage) :
    codeOffset q = ecamOffset q :=
  toNat_ecamAddress q haddressed.2.1 haddressed.2.2 hin.1

theorem pciAccess_of_unchecked (read : Bool)
    (h : ¬ (e.Addressed q ∧ q.FieldAligned ∧ ¬ q.LeavesPage)) :
    ∃ err, rootBridgeIoPciAccess e.toPciRootBridge read q.width q.address q.count true =
      .error err := by
  obtain ⟨err, hcheck⟩ := (checkParameter_pci e q).2 h
  exact ⟨err, by rw [rootBridgeIoPciAccess, hcheck]⟩

end Access

/-- A well-formed request accesses exactly its registers in the page of its function;
a misaligned register, a range leaving the page and a bus out of range are
rejected. -/
def ConfigExact (e : EcamBridge) (read : Bool) (q : ConfigRequest) : Prop :=
  (e.Addressed q ∧ q.Aligned ∧ q.InPage →
      rootBridgeIoPciAccess e.toPciRootBridge read q.width q.address q.count true =
        .ok ⟨windowTarget e.configReg (e.exactOffset q), q.width, q.count⟩) ∧
    (¬ q.Aligned ∨ q.LeavesPage ∨ ¬ e.BusInRange q →
      ∃ err, rootBridgeIoPciAccess e.toPciRootBridge read q.width q.address q.count true =
        .error err)

/-- The window starts at bus zero and the low byte is aligned for the well-formed
requests; the low byte is misaligned, or the window too short, for the others. -/
def ConfigSound (e : EcamBridge) (q : ConfigRequest) : Prop :=
  (e.Addressed q ∧ q.Aligned ∧ q.InPage → e.busMin = 0 ∧ q.FieldAligned) ∧
    (e.Addressed q ∧ ¬ q.Aligned ∧ ¬ q.LeavesPage ∧ q.FieldAligned →
      e.configReg.length.toNat < ecamOffset q + q.extent)

section Exact

variable (e : EcamBridge) (q : ConfigRequest)

theorem windowTarget_inj (reg : DtReg) (a b : Nat) (ha : a < 2 ^ 64) (hb : b < 2 ^ 64)
    (h : windowTarget reg a = windowTarget reg b) : a = b := by
  rw [windowTarget, windowTarget] at h
  cases hbus : reg.busDtIo with
  | none =>
      simp only [hbus, RegTarget.cpuIo2.injEq] at h
      have hnat := congrArg BitVec.toNat h
      simp only [BitVec.toNat_setWidth, BitVec.toNat_add, BitVec.toNat_ofNat] at hnat
      omega
  | some bus =>
      simp only [hbus, RegTarget.busDtIo.injEq, true_and] at h
      have hnat := congrArg BitVec.toNat h
      simp only [BitVec.toNat_ofNat] at hnat
      omega

theorem inPage_of_misaligned (haligned : ¬ q.Aligned) (hleaves : ¬ q.LeavesPage) :
    q.InPage := by
  have hend := Nat.not_lt.mp hleaves
  refine ⟨?_, hend⟩
  by_contra hpast
  have hregister : q.register = 4096 := by omega
  apply haligned
  rw [ConfigRequest.Aligned, hregister]
  cases q.width <;> rfl

/-- In a window that starts at bus zero, both offsets are one and the page exists. -/
theorem ecamOffset_of_busMin_zero (haddressed : e.Addressed q) (hin : q.InPage)
    (hzero : e.busMin = 0) :
    ecamOffset q = e.exactOffset q ∧ ecamOffset q + q.extent ≤ e.configReg.length.toNat := by
  have hmin : e.busMin.toNat = 0 := by rw [hzero]; rfl
  have hmax := haddressed.1.2
  have hdevice := haddressed.2.1
  have hfunction := haddressed.2.2
  have hend := hin.2
  rw [e.window_eq, ecamOffset, EcamBridge.exactOffset, hmin]
  omega

theorem busMin_eq_zero (haddressed : e.Addressed q) (h : ecamOffset q = e.exactOffset q) :
    e.busMin = 0 := by
  have hmin := haddressed.1.1
  apply BitVec.eq_of_toNat_eq
  have hzero : (0 : U32).toNat = 0 := rfl
  rw [ecamOffset, EcamBridge.exactOffset] at h
  omega

theorem configExact_iff (read : Bool) : ConfigExact e read q ↔ ConfigSound e q := by
  constructor
  · intro hexact
    refine ⟨?_, ?_⟩
    · rintro ⟨haddressed, haligned, hin⟩
      have hrun := hexact.1 ⟨haddressed, haligned, hin⟩
      by_cases hfield : q.FieldAligned
      · rw [pciAccess_of_checked e q read ⟨haddressed, hfield, Nat.not_lt.mpr hin.2⟩,
          codeOffset_of_inPage e q haddressed hin] at hrun
        split at hrun
        · next hfits =>
          simp only [Except.ok.injEq, RegAccess.mk.injEq, and_true] at hrun
          have hlength := e.window_eq
          have hmax := e.busMax_le
          have hsame : ecamOffset q = e.exactOffset q := by
            have hbus := bus_lt q
            have hregister := hin.1
            refine windowTarget_inj e.configReg _ _ (by omega) ?_ hrun
            have hdevice := haddressed.2.1
            have hfunction := haddressed.2.2
            rw [EcamBridge.exactOffset]
            omega
          exact ⟨busMin_eq_zero e q haddressed hsame, hfield⟩
        · simp at hrun
      · obtain ⟨err, herr⟩ := pciAccess_of_unchecked e q read (fun h => hfield h.2.1)
        rw [herr] at hrun
        simp at hrun
    · rintro ⟨haddressed, haligned, hleaves, hfield⟩
      obtain ⟨err, herr⟩ := hexact.2 (Or.inl haligned)
      have hin := inPage_of_misaligned q haligned hleaves
      rw [pciAccess_of_checked e q read ⟨haddressed, hfield, hleaves⟩,
        codeOffset_of_inPage e q haddressed hin] at herr
      split at herr
      · simp at herr
      · next hfits => omega
  · rintro ⟨hvalid, hinvalid⟩
    refine ⟨?_, ?_⟩
    · rintro ⟨haddressed, haligned, hin⟩
      obtain ⟨hzero, hfield⟩ := hvalid ⟨haddressed, haligned, hin⟩
      obtain ⟨hsame, hfits⟩ := ecamOffset_of_busMin_zero e q haddressed hin hzero
      rw [pciAccess_of_checked e q read ⟨haddressed, hfield, Nat.not_lt.mpr hin.2⟩,
        codeOffset_of_inPage e q haddressed hin, if_pos hfits, hsame]
    · intro hbad
      by_cases hchecked : e.Addressed q ∧ q.FieldAligned ∧ ¬ q.LeavesPage
      · obtain ⟨haddressed, hfield, hleaves⟩ := hchecked
        have haligned : ¬ q.Aligned := by
          rcases hbad with h | h | h
          · exact h
          · exact absurd h hleaves
          · exact absurd haddressed.1 h
        have hin := inPage_of_misaligned q haligned hleaves
        have hshort := hinvalid ⟨haddressed, haligned, hleaves, hfield⟩
        rw [pciAccess_of_checked e q read ⟨haddressed, hfield, hleaves⟩,
          codeOffset_of_inPage e q haddressed hin, if_neg (by omega)]
        exact ⟨_, rfl⟩
      · exact pciAccess_of_unchecked e q read hchecked

/-- Base of the window in the address space its accesses are forwarded to. -/
def windowBase (reg : DtReg) : Nat :=
  if reg.busDtIo = none then reg.translatedBase.toNat else 0

/-- A byte touched by an accepted request lies in the page of the request's function. -/
theorem page_of_touched (read : Bool) (a : RegAccess) (x : Nat)
    (hrun : rootBridgeIoPciAccess e.toPciRootBridge read q.width q.address q.count true =
      .ok a) (hx : Span.Mem x a.touched) :
    windowBase e.configReg ≤ x ∧ q.device ≤ 31 ∧ q.function ≤ 7 ∧
      (x - windowBase e.configReg) / 4096 = q.bus * 256 + q.device * 8 + q.function := by
  by_cases hchecked : e.Addressed q ∧ q.FieldAligned ∧ ¬ q.LeavesPage
  swap
  · obtain ⟨err, herr⟩ := pciAccess_of_unchecked e q read hchecked
    rw [herr] at hrun
    simp at hrun
  rw [pciAccess_of_checked e q read hchecked] at hrun
  split at hrun
  swap
  · simp at hrun
  next hfits =>
  simp only [Except.ok.injEq] at hrun
  obtain ⟨haddressed, -, hleaves⟩ := hchecked
  have hlt : codeOffset q < 2 ^ 32 := BitVec.isLt _
  have hend := Nat.not_lt.mp hleaves
  have htouched : windowBase e.configReg + codeOffset q ≤ x ∧
      x < windowBase e.configReg + codeOffset q + q.extent := by
    rw [← hrun] at hx
    cases hbus : e.configReg.busDtIo with
    | none =>
        have hwindow := e.window_le hbus
        simp only [RegAccess.touched, windowTarget, hbus, Span.Mem, Span.limit_mk,
          BitVec.toNat_setWidth, BitVec.toNat_add, BitVec.toNat_ofNat] at hx
        change _ ∧ x < _ + q.extent at hx
        rw [windowBase, if_pos hbus]
        omega
    | some bus =>
        simp only [RegAccess.touched, windowTarget, hbus, Span.Mem, Span.limit_mk,
          BitVec.toNat_ofNat] at hx
        change _ ∧ x < _ + q.extent at hx
        rw [windowBase, hbus, if_neg (by simp)]
        omega
  have hin : q.InPage := ⟨by omega, hend⟩
  have hoffset := codeOffset_of_inPage e q haddressed hin
  rw [ecamOffset] at hoffset
  have hstart := hin.1
  refine ⟨by omega, haddressed.2.1, haddressed.2.2, by omega⟩

end Exact

def ConfigRequest.OtherFunction (q q' : ConfigRequest) : Prop :=
  q.bus ≠ q'.bus ∨ q.device ≠ q'.device ∨ q.function ≠ q'.function

/-- No byte is touched by accepted accesses to two different functions. -/
def FunctionsApart (e : EcamBridge) (q q' : ConfigRequest) : Prop :=
  q.OtherFunction q' → ∀ read read' a a',
    rootBridgeIoPciAccess e.toPciRootBridge read q.width q.address q.count true = .ok a →
    rootBridgeIoPciAccess e.toPciRootBridge read' q'.width q'.address q'.count true = .ok a' →
      ∀ x, ¬ (Span.Mem x a.touched ∧ Span.Mem x a'.touched)

theorem functionsApart (e : EcamBridge) (q q' : ConfigRequest) : FunctionsApart e q q' := by
  intro hother read read' a a' hrun hrun' x hx
  obtain ⟨-, hdevice, hfunction, hpage⟩ := page_of_touched e q read a x hrun hx.1
  obtain ⟨-, hdevice', hfunction', hpage'⟩ := page_of_touched e q' read' a' x hrun' hx.2
  rw [ConfigRequest.OtherFunction] at hother
  omega

/-- A request is handled exactly if and only if it is sound for the window, and
different functions are always apart. -/
theorem pciAccess_exact_iff (e : EcamBridge) (q : ConfigRequest) :
    (∀ read, ConfigExact e read q ↔ ConfigSound e q) ∧ ∀ q', FunctionsApart e q q' :=
  ⟨configExact_iff e q, functionsApart e q⟩

/-- A bridge for buses 1 and 2, with its window in CPU space. -/
def secondBusBridge : EcamBridge where
  dtIo := .root ⟨1, 1, 0, 2, 1, 1, 4, true, 0, none, MAX_UINT64⟩
  segment := 0
  configReg := ⟨0x40000000, 0x40000000, 0x200000, none⟩
  busRange := rootBridgeBusRange 1 2
  ioRange := rootBridgeBusRange 0 0
  memRange := rootBridgeBusRange 0 0
  pMemRange := rootBridgeBusRange 0 0
  memAbove4GRange := rootBridgeBusRange 0 0
  pMemAbove4GRange := rootBridgeBusRange 0 0
  vgaMemRange := rootBridgeBusRange 0 0
  vgaIo1Range := rootBridgeBusRange 0 0
  vgaIo2Range := rootBridgeBusRange 0 0
  dmaAbove4G := true
  noExtendedConfigSpace := false
  keepExistingConfig := false
  busMin := 1
  busMax := 2
  busMin_le := by decide
  busMax_le := by decide
  busRange_eq := rfl
  extended := rfl
  window_eq := by decide
  window_le _ := by decide
  ancestor := by decide

/-- The vendor ID of bus 1, device 0, function 0 is read from the second bus's page. -/
theorem pciAccess_second_bus :
    ¬ ConfigExact secondBusBridge true ⟨.uint16, 0x01000000, 1, by decide⟩ := by
  intro h
  exact absurd (h.1 (by decide)) (by decide)

end FdtBusPkg
