import FdtBusPkg.Pci.AccessCheck
import FdtBusPkg.Pci.Ranges

/-!
Routing of memory and I/O accesses to the apertures of a root bridge. The
comparison with a limit adds one to it, so an absent aperture accepts nothing,
but neither does one that ends at the top of the address space.
-/
namespace FdtBusPkg

inductive PciSpace
  | io
  | mem
  deriving DecidableEq, Repr

/-- A root bridge with the apertures found in `ranges`, none of which wraps. -/
structure RoutedBridge where
  found : PciRootBridge
  vgaIo1_absent : found.vgaIo1Range.length = 0
  vgaIo2_absent : found.vgaIo2Range.length = 0
  vgaMem_absent : found.vgaMemRange.length = 0
  fits (a : PciAperture) : (found.aperture a).rb.toNat + (found.aperture a).length.toNat ≤ 2 ^ 64
  ancestor (a : PciAperture) : (found.aperture a).busDtIo ≠ some found.dtIo.info.dtIo

/-- A memory or I/O request of a valid width for at least one element. -/
structure SpaceRequest where
  space : PciSpace
  read : Bool
  width : DtIoWidth
  address : U64
  count : Uintn
  width_ne : width ≠ .maximum
  count_ne : count ≠ 0

namespace PciRootBridge

/-- The apertures of a space, in the order in which they are tried. -/
def windows (bridge : PciRootBridge) : PciSpace → List DtRange
  | .io => [bridge.vgaIo1Range, bridge.vgaIo2Range, bridge.ioRange]
  | .mem => [bridge.memRange, bridge.vgaMemRange, bridge.pMemRange, bridge.memAbove4GRange,
      bridge.pMemAbove4GRange]

end PciRootBridge

namespace RoutedBridge

def bridge (b : RoutedBridge) : PciRootBridge := setVgaWindows b.found

end RoutedBridge

namespace SpaceRequest

variable (q : SpaceRequest)

def operation : OperationType :=
  match q.space with
  | .io => .ioOperation
  | .mem => .memOperation

def extent : Nat := regExtent q.width q.count

def Aligned : Prop := q.address.toNat % q.width.bytes = 0

/-- The window is present and contains the whole range of the request. -/
def InRange (range : DtRange) : Prop :=
  range.valid = true ∧
    Span.Within ⟨q.address.toNat, q.extent⟩ ⟨range.rb.toNat, range.length.toNat⟩

instance : Decidable q.Aligned := inferInstanceAs (Decidable (_ = _))
instance (range : DtRange) : Decidable (q.InRange range) :=
  inferInstanceAs (Decidable (_ ∧ _))

end SpaceRequest

def spaceAccess (bridge : PciRootBridge) (q : SpaceRequest) : EfiResult RegAccess :=
  match q.space, q.read with
  | .mem, true => rootBridgeIoMemRead bridge q.width q.address q.count true
  | .mem, false => rootBridgeIoMemWrite bridge q.width q.address q.count true
  | .io, true => rootBridgeIoIoRead bridge q.width q.address q.count true
  | .io, false => rootBridgeIoIoWrite bridge q.width q.address q.count true

/-- First address accessed, on the host side of the root bridge. -/
def RegTarget.hostAddress : RegTarget → U64
  | .cpuIo2 address => address
  | .busDtIo _ reg offset => (reg.translatedBase + offset).setWidth 64
  | .childReg _ reg offset => (reg.translatedBase + offset).setWidth 64

/-- The device asked to make the access, if not the CPU. -/
def RegTarget.bus? : RegTarget → Option DtIoRef
  | .cpuIo2 _ => none
  | .busDtIo bus _ _ => some bus
  | .childReg bus _ _ => some bus

/-- The access is the request, shifted by the translation of the window. -/
def HostedBy (range : DtRange) (q : SpaceRequest) (a : RegAccess) : Prop :=
  a.target.hostAddress = q.address - range.rt ∧ a.target.bus? = range.busDtIo ∧
    a.width = q.width ∧ a.count = q.count

/-- Exactly the aligned requests inside one present window are accepted, and they go
where that window's translation says. -/
def Routed (b : RoutedBridge) (q : SpaceRequest) : Prop :=
  ((∃ a, spaceAccess b.bridge q = .ok a) ↔
      q.Aligned ∧ ∃ range ∈ b.bridge.windows q.space, q.InRange range) ∧
    ∀ a, spaceAccess b.bridge q = .ok a →
      ∃ range ∈ b.bridge.windows q.space, q.InRange range ∧ HostedBy range q a

section Select

variable (bridge : PciRootBridge) (q : SpaceRequest)

def selectedWindow (length : U64) : DtRange :=
  match q.space with
  | .io => ioAperture bridge q.address length
  | .mem => memAperture bridge q.address length

theorem selectedWindow_mem (length : U64) :
    selectedWindow bridge q length ∈ bridge.windows q.space := by
  rw [selectedWindow]
  cases q.space with
  | io =>
      simp only [ioAperture, PciRootBridge.windows]
      split_ifs <;> simp
  | mem =>
      simp only [memAperture, PciRootBridge.windows]
      split_ifs <;> simp

/-- Any window that would accept the request is not passed over for one that does not. -/
theorem inAperture_selectedWindow (length : U64) (range : DtRange)
    (hrange : range ∈ bridge.windows q.space)
    (hin : inAperture q.address length range = true) :
    inAperture q.address length (selectedWindow bridge q length) = true := by
  rw [selectedWindow]
  cases hspace : q.space with
  | io =>
      rw [hspace] at hrange
      simp only [PciRootBridge.windows, List.mem_cons, List.not_mem_nil, or_false] at hrange
      simp only [ioAperture]
      split_ifs with h1 h2
      · exact h1
      · exact h2
      · rcases hrange with rfl | rfl | rfl
        · exact absurd hin h1
        · exact absurd hin h2
        · exact hin
  | mem =>
      rw [hspace] at hrange
      simp only [PciRootBridge.windows, List.mem_cons, List.not_mem_nil, or_false] at hrange
      simp only [memAperture]
      split_ifs with h1 h2 h3 h4
      · exact h1
      · exact h2
      · exact h3
      · exact h4
      · rcases hrange with rfl | rfl | rfl | rfl | rfl
        · exact absurd hin h1
        · exact absurd hin h2
        · exact absurd hin h3
        · exact absurd hin h4
        · exact hin

theorem checkParameter_space (range : DtRange) (haligned : q.Aligned)
    (hend : q.address.toNat + q.extent < 2 ^ 64)
    (hselected : selectedWindow bridge q (BitVec.ofNat 64 q.extent) = range) :
    rootBridgeIoCheckParameter bridge q.operation q.width q.address q.count true =
      if inAperture q.address (BitVec.ofNat 64 q.extent) range then
        .ok (fbpRangeToReg range (range.rb.setWidth 128))
      else
        .error .invalidParameter := by
  have hwindow : accessWindow bridge q.operation q.address (BitVec.ofNat 64 q.extent) =
      .ok (q.address, range.rb, range.rl, fbpRangeToReg range (range.rb.setWidth 128)) := by
    rw [← hselected, selectedWindow, SpaceRequest.operation]
    cases q.space <;> rfl
  have hextent : regExtent q.width q.count = q.extent := rfl
  rw [checkParameter_passes _ _ _ _ _ q.width_ne haligned hend, hextent, hwindow]
  by_cases hbase : q.address < range.rb
  · have hout : inAperture q.address (BitVec.ofNat 64 q.extent) range = false := by
      rw [inAperture, decide_eq_false (BitVec.not_le.mpr hbase), Bool.false_and]
    simp only [if_pos hbase, hout, Bool.false_eq_true, if_false]
  · have hin : inAperture q.address (BitVec.ofNat 64 q.extent) range =
        decide (q.address + BitVec.ofNat 64 q.extent ≤ range.rl + 1) := by
      rw [inAperture, decide_eq_true (BitVec.not_lt.mp hbase), Bool.true_and]
    rw [hin]
    by_cases hlimit : q.address + BitVec.ofNat 64 q.extent ≤ range.rl + 1
    · simp only [if_neg hbase, if_neg (BitVec.not_lt.mpr hlimit), decide_eq_true hlimit, if_true]
    · simp only [if_neg hbase, if_pos (BitVec.not_le.mp hlimit), decide_eq_false hlimit,
        Bool.false_eq_true, if_false]

end Select

section Route

variable (b : RoutedBridge) (q : SpaceRequest)

theorem extent_pos : 0 < q.extent := by
  have hbytes := q.width.bytes_pos
  have hcount : 0 < q.count.toNat := by
    rw [Nat.pos_iff_ne_zero]
    intro hzero
    exact q.count_ne (BitVec.eq_of_toNat_eq hzero)
  rw [SpaceRequest.extent, regExtent]
  split
  · exact hbytes
  · exact Nat.mul_pos hcount hbytes

theorem toNat_rl_add_one (range : DtRange) :
    (range.rl + 1).toNat = (range.rb.toNat + range.length.toNat) % 2 ^ 64 := by
  have hone : (1 : U64).toNat = 1 := rfl
  have hone128 : (1 : U128).toNat = 1 := rfl
  simp only [DtRange.rl, DtRange.rb, BitVec.toNat_add, BitVec.toNat_sub, BitVec.toNat_setWidth,
    hone, hone128]
  omega

/-- The comparison made by the code is exact but for a range that ends at the top. -/
theorem inAperture_iff (range : DtRange)
    (hfits : range.rb.toNat + range.length.toNat ≤ 2 ^ 64)
    (hend : q.address.toNat + q.extent < 2 ^ 64) :
    inAperture q.address (BitVec.ofNat 64 q.extent) range = true ↔
      q.InRange range ∧ range.rb.toNat + range.length.toNat < 2 ^ 64 := by
  have hpos := extent_pos q
  have hvalid : range.valid = true ↔ range.length.toNat ≠ 0 := by
    have hzero : (0 : U128).toNat = 0 := rfl
    rw [DtRange.valid, bne_iff_ne, ne_eq, BitVec.toNat_eq, hzero]
  have hsum : (q.address + BitVec.ofNat 64 q.extent).toNat = q.address.toNat + q.extent := by
    rw [BitVec.toNat_add, BitVec.toNat_ofNat]
    omega
  rw [inAperture, Bool.and_eq_true, decide_eq_true_eq, decide_eq_true_eq, ge_iff_le,
    BitVec.le_def, BitVec.le_def, hsum, toNat_rl_add_one, SpaceRequest.InRange, hvalid]
  simp only [Span.Within, Span.limit_mk]
  omega

theorem windowBase_vgaWindow (range : DtRange) (base : U64) (size : DtSize) :
    (vgaWindow range base size).rb = base := by
  rw [rb_vgaWindow, BitVec.sub_eq_iff_eq_add, BitVec.add_comm, BitVec.sub_add_cancel]

/-- A window that does not wrap and whose accesses, if any, are made elsewhere. -/
def WindowUsable (range : DtRange) : Prop :=
  range.rb.toNat + range.length.toNat ≤ 2 ^ 64 ∧
    (range.valid = true → range.busDtIo ≠ some b.found.dtIo.info.dtIo)

theorem windowUsable_aperture (a : PciAperture) : WindowUsable b (b.found.aperture a) :=
  ⟨b.fits a, fun _ => b.ancestor a⟩

theorem windowUsable_of_absent (range : DtRange) (h : range.length = 0) :
    WindowUsable b range := by
  have hlength : range.length.toNat = 0 := by
    rw [h]
    rfl
  refine ⟨?_, fun hvalid => ?_⟩
  · have hbase := range.rb.isLt
    omega
  · rw [DtRange.valid, h] at hvalid
    exact absurd hvalid (by decide)

theorem windowUsable_derived (a : PciAperture) (old : DtRange) (hold : old.length = 0)
    (base : U64) (size : DtSize) (hsize : base.toNat + size.toNat ≤ 2 ^ 64) :
    WindowUsable b
      (if (b.found.aperture a).valid then vgaWindow (b.found.aperture a) base size else old) := by
  split
  · refine ⟨?_, fun _ => b.ancestor a⟩
    rw [windowBase_vgaWindow]
    exact hsize
  · exact windowUsable_of_absent b old hold

theorem bridge_dtIo : b.bridge.dtIo = b.found.dtIo := by
  rw [RoutedBridge.bridge, setVgaWindows]
  split <;> split <;> rfl

theorem windowUsable_of_mem (space : PciSpace) (range : DtRange)
    (h : range ∈ b.bridge.windows space) : WindowUsable b range := by
  have haperture (a : PciAperture) : WindowUsable b (b.bridge.aperture a) := by
    rw [RoutedBridge.bridge, aperture_setVgaWindows]
    exact windowUsable_aperture b a
  cases space with
  | io =>
      simp only [PciRootBridge.windows, List.mem_cons, List.not_mem_nil, or_false] at h
      rcases h with rfl | rfl | rfl
      · rw [RoutedBridge.bridge, (vgaIoRanges_setVgaWindows b.found).1]
        exact windowUsable_derived b .io _ b.vgaIo1_absent _ _ (by decide)
      · rw [RoutedBridge.bridge, (vgaIoRanges_setVgaWindows b.found).2]
        exact windowUsable_derived b .io _ b.vgaIo2_absent _ _ (by decide)
      · exact haperture .io
  | mem =>
      simp only [PciRootBridge.windows, List.mem_cons, List.not_mem_nil, or_false] at h
      rcases h with rfl | rfl | rfl | rfl | rfl
      · exact haperture .mem
      · rw [RoutedBridge.bridge, vgaMemRange_setVgaWindows]
        exact windowUsable_derived b .mem _ b.vgaMem_absent _ _ (by decide)
      · exact haperture .pMem
      · exact haperture .memAbove4G
      · exact haperture .pMemAbove4G

theorem hostedBy_windowTarget (range : DtRange) :
    HostedBy range q ⟨windowTarget (fbpRangeToReg range (range.rb.setWidth 128))
      q.address.toNat, q.width, q.count⟩ := by
  have haddress : (BitVec.ofNat 128 q.address.toNat).setWidth 64 = q.address := by
    apply BitVec.eq_of_toNat_eq
    have hlt := q.address.isLt
    rw [BitVec.toNat_setWidth, BitVec.toNat_ofNat]
    omega
  have hshift : (range.translatedParentBase - range.rb.setWidth 128 +
      BitVec.ofNat 128 q.address.toNat).setWidth 64 = q.address - range.rt := by
    rw [BitVec.setWidth_add _ _ (by decide), setWidth_sub, haddress, DtRange.rt, setWidth_sub,
      BitVec.setWidth_setWidth_of_le _ (by decide), BitVec.setWidth_eq, DtRange.rb]
    generalize range.translatedParentBase.setWidth 64 = x
    generalize range.childBase.setWidth 64 = y
    bv_omega
  refine ⟨?_, ?_, rfl, rfl⟩
  · rw [windowTarget, fbpRangeToReg]
    cases range.busDtIo <;> exact hshift
  · rw [windowTarget, fbpRangeToReg]
    cases range.busDtIo <;> rfl

/-- The two accessors of a space differ in the call they make, not in the checks. -/
theorem spaceAccess_eq (bridge : PciRootBridge) :
    spaceAccess bridge q = rootBridgeIoAccess bridge q.operation q.read q.width q.address
      q.count true := by
  rw [spaceAccess, SpaceRequest.operation]
  cases q.space <;> cases q.read <;> rfl

/-- Some present window contains the request and does not reach the top. -/
def BelowTop : Prop :=
  ∃ range ∈ b.bridge.windows q.space, q.InRange range ∧
    range.rb.toNat + range.length.toNat < 2 ^ 64

theorem spaceAccess_accepted (haligned : q.Aligned) (h : BelowTop b q) :
    ∃ range ∈ b.bridge.windows q.space, q.InRange range ∧
      ∃ a, spaceAccess b.bridge q = .ok a ∧ HostedBy range q a := by
  obtain ⟨range, hmem, hin, htop⟩ := h
  have hend : q.address.toNat + q.extent < 2 ^ 64 :=
    Nat.lt_of_le_of_lt hin.2.2 htop
  have hselected := inAperture_selectedWindow b.bridge q _ range hmem
    ((inAperture_iff q range (windowUsable_of_mem b _ range hmem).1 hend).mpr ⟨hin, htop⟩)
  have hcheck := checkParameter_space b.bridge q _ haligned hend rfl
  have hmem' := selectedWindow_mem b.bridge q (BitVec.ofNat 64 q.extent)
  generalize selectedWindow b.bridge q (BitVec.ofNat 64 q.extent) = selected at *
  have husable := windowUsable_of_mem b _ selected hmem'
  have hcontains := ((inAperture_iff q selected husable.1 hend).mp hselected).1
  rw [hselected, if_pos rfl] at hcheck
  refine ⟨selected, hmem', hcontains, _, ?_, hostedBy_windowTarget q selected⟩
  have hoffset : q.address.setWidth 128 = BitVec.ofNat 128 q.address.toNat :=
    BitVec.eq_of_toNat_eq (by rw [BitVec.toNat_setWidth, BitVec.toNat_ofNat])
  have hlength : q.address.toNat + regExtent q.width q.count ≤
      (fbpRangeToReg selected (selected.rb.setWidth 128)).length.toNat := by
    have hwithin : q.address.toNat + q.extent ≤ selected.rb.toNat + selected.length.toNat :=
      hcontains.2.2
    have hfits := husable.1
    rw [fbpRangeToReg, BitVec.toNat_add, BitVec.toNat_setWidth]
    change q.address.toNat + q.extent ≤ _
    omega
  have hbus : (fbpRangeToReg selected (selected.rb.setWidth 128)).busDtIo ≠
      some b.bridge.dtIo.info.dtIo := by
    rw [bridge_dtIo]
    exact husable.2 hcontains.1
  have haccess (childReg : DtIoCallbacks → Bool) :=
    dtIoAccessReg_of_extent childReg q.width q.count b.bridge.dtIo
      (fbpRangeToReg selected (selected.rb.setWidth 128)) q.address.toNat q.width_ne hbus
      q.address.isLt (Nat.lt_of_le_of_lt (Nat.le_add_left _ _) hend)
  rw [spaceAccess_eq, rootBridgeIoAccess, hcheck]
  simp only [hoffset, dtIoReadReg, dtIoWriteReg, haccess, if_pos hlength, ite_self]

theorem belowTop_of_accepted (a : RegAccess) (h : spaceAccess b.bridge q = .ok a) :
    q.Aligned ∧ BelowTop b q := by
  rw [spaceAccess_eq, rootBridgeIoAccess] at h
  by_cases hpassed : q.address.toNat % q.width.bytes = 0 ∧
      q.address.toNat + regExtent q.width q.count < 2 ^ 64
  swap
  · obtain ⟨err, hcheck⟩ :=
      checkParameter_rejects b.bridge q.operation q.width q.address q.count q.width_ne hpassed
    rw [hcheck] at h
    exact absurd h (by simp)
  refine ⟨hpassed.1, ?_⟩
  have hcheck := checkParameter_space b.bridge q _ hpassed.1 hpassed.2 rfl
  have hmem := selectedWindow_mem b.bridge q (BitVec.ofNat 64 q.extent)
  generalize selectedWindow b.bridge q (BitVec.ofNat 64 q.extent) = selected at *
  cases hin : inAperture q.address (BitVec.ofNat 64 q.extent) selected with
  | false =>
      rw [hin, if_neg Bool.false_ne_true] at hcheck
      rw [hcheck] at h
      exact absurd h (by simp)
  | true =>
      have husable := windowUsable_of_mem b _ selected hmem
      exact ⟨selected, hmem, (inAperture_iff q selected husable.1 hpassed.2).mp hin⟩

end Route

/-- Accesses are routed as they should be exactly when one contained in a window is
also contained in a window that ends below the top of the address space. -/
theorem routed_iff (b : RoutedBridge) (q : SpaceRequest) :
    Routed b q ↔
      (q.Aligned → (∃ range ∈ b.bridge.windows q.space, q.InRange range) →
        ∃ range ∈ b.bridge.windows q.space, q.InRange range ∧
          range.rb.toNat + range.length.toNat < 2 ^ 64) := by
  constructor
  · intro h haligned hin
    obtain ⟨a, ha⟩ := h.1.mpr ⟨haligned, hin⟩
    exact (belowTop_of_accepted b q a ha).2
  · intro h
    refine ⟨⟨?_, ?_⟩, ?_⟩
    · intro haccepted
      obtain ⟨a, ha⟩ := haccepted
      obtain ⟨haligned, range, hmem, hin, -⟩ := belowTop_of_accepted b q a ha
      exact ⟨haligned, range, hmem, hin⟩
    · intro hinside
      obtain ⟨range, -, -, a, ha, -⟩ :=
        spaceAccess_accepted b q hinside.1 (h hinside.1 hinside.2)
      exact ⟨a, ha⟩
    · intro a ha
      obtain ⟨haligned, hbelow⟩ := belowTop_of_accepted b q a ha
      obtain ⟨range, hmem, hin, a', ha', hhosted⟩ := spaceAccess_accepted b q haligned hbelow
      rw [ha] at ha'
      cases ha'
      exact ⟨range, hmem, hin, hhosted⟩

/-- A 64-bit memory window of 4 GB at the top of the address space. -/
def topWindow : DtRange :=
  ⟨0xFFFFFFFF00000000, 0xFFFFFFFF00000000, 0xFFFFFFFF00000000, 0x100000000, none⟩

def absentWindow : DtRange := ⟨0, 0, 0, 0, none⟩

def topBridge : RoutedBridge where
  found := { uniformBridge absentWindow with memAbove4GRange := topWindow }
  vgaIo1_absent := rfl
  vgaIo2_absent := rfl
  vgaMem_absent := rfl
  fits a := by cases a <;> decide
  ancestor a := by cases a <;> decide

/-- No byte of a window that ends at the top can be accessed. -/
theorem topWindow_rejected :
    ¬ Routed topBridge
      ⟨.mem, true, .uint8, 0xFFFFFFFF00000000, 1, by decide, by decide⟩ := by
  intro h
  obtain ⟨a, ha⟩ := h.1.mpr ⟨by decide, topWindow, by decide, by decide⟩
  have herror : spaceAccess topBridge.bridge
      ⟨.mem, true, .uint8, 0xFFFFFFFF00000000, 1, by decide, by decide⟩ =
        .error .invalidParameter := by
    decide
  rw [herror] at ha
  exact absurd ha (by simp)

end FdtBusPkg
