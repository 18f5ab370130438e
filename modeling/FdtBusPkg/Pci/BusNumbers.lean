import FdtBusPkg.Pci.DtInit

/-!
Well-formed root bridges and bus numbers. The validation compares 64-bit limits, and
the check of a bus range compares a 64-bit sum; both are set against exact arithmetic.
-/
namespace FdtBusPkg

/-- `[base, base + length)` ends by `limit`. -/
def DtRange.EndsBy (range : DtRange) (limit : Nat) : Prop :=
  range.rb.toNat + range.length.toNat ≤ limit

/-- Buses in order and below 256, apertures within their part of the address space. -/
structure WellFormedRootBridge (bridge : PciRootBridge) : Prop where
  busOrder : bridge.busRange.rb.toNat ≤ bridge.busRange.rl.toNat
  busMax_le : bridge.busRange.rl.toNat ≤ 255
  apertures : ∀ a, (bridge.aperture a).valid = true → (bridge.aperture a).EndsBy (2 ^ 64)
  below4G : ∀ a : PciAperture, a.below4G = true → (bridge.aperture a).valid = true →
    (bridge.aperture a).EndsBy (2 ^ 32)

/-- The node lists its buses in order, and the last entry of each aperture does not run
over the end of the address space. -/
structure WellFormedNode (node : PciHostNode) : Prop where
  buses : ∀ busMin busMax, node.busMin = .ok busMin → node.busMax = .ok busMax →
    busMin ≤ busMax ∧ busMax ≤ 255
  entries : ∀ a range, node.lastEntry a = some range → range.valid = true →
    range.EndsBy (2 ^ 64)

/-- A call of `SetBusNumbers`. -/
structure BusNumbersRequest where
  this : Bool
  rootBridgeHandle : EfiHandle
  configuration : Option AcpiConfiguration
  state : HostBridgeState

/-- The buses of a descriptor: some, and all within the range. -/
def BusesInside (range : DtRange) (d : AcpiDescriptor) : Prop :=
  0 < d.addrLen.toNat ∧ range.rb.toNat ≤ d.addrRangeMin.toNat ∧
    d.addrRangeMin.toNat + d.addrLen.toNat ≤ range.rl.toNat + 1

/-- `SetBusNumbers` succeeds on buses within the range only, which it records, and leaves
the bus node alone otherwise. -/
def BusNumbersExact (bridge : PciHostBridge) (q : BusNumbersRequest) : Prop :=
  match hostBridgeSetBusNumbers bridge q.this q.rootBridgeHandle q.configuration q.state with
  | (.ok (), s) => ∃ d endDesc, q.configuration = some ⟨[d], endDesc⟩ ∧
      BusesInside bridge.busRange d ∧
      s = q.state.setNode .bus { q.state.nodes .bus with
        base := d.addrRangeMin, length := d.addrLen, status := .allocated }
  | (.error _, s) => s.nodes .bus = q.state.nodes .bus

/-- The request is a bus descriptor that starts in the range or above it and whose last
bus, beyond 64 bits, comes out in the range or below it. -/
def WrapsIntoRange (bridge : PciHostBridge) (q : BusNumbersRequest) : Prop :=
  q.this = true ∧ bridge.controller = q.rootBridgeHandle ∧
    ∃ d, q.configuration = some ⟨[d], ACPI_END_TAG_DESCRIPTOR⟩ ∧
      d.resType = ACPI_ADDRESS_SPACE_TYPE_BUS ∧
      bridge.busRange.rb.toNat ≤ d.addrRangeMin.toNat ∧
      2 ^ 64 < d.addrRangeMin.toNat + d.addrLen.toNat ∧
      d.addrRangeMin.toNat + d.addrLen.toNat ≤ 2 ^ 64 + bridge.busRange.rl.toNat + 1

section Apertures

variable (range : DtRange)

theorem length_pos_of_valid (h : range.valid = true) : 0 < range.length.toNat := by
  rw [DtRange.valid, bne_iff_ne, ne_eq, ← BitVec.toNat_inj] at h
  exact Nat.pos_of_ne_zero h

theorem toNat_rl_of_endsBy (hvalid : range.valid = true) (hend : range.EndsBy (2 ^ 64)) :
    range.rl.toNat = range.rb.toNat + range.length.toNat - 1 := by
  have hlength := length_pos_of_valid range hvalid
  have hone : (1 : U128).toNat = 1 := rfl
  rw [DtRange.EndsBy, DtRange.rb, BitVec.toNat_setWidth] at hend
  rw [DtRange.rl, DtRange.rb, BitVec.toNat_setWidth, BitVec.toNat_setWidth, BitVec.toNat_sub,
    BitVec.toNat_add, hone]
  omega

/-- An accepted window below 4 GB ends there unless it runs over the end. -/
theorem endsBy_4GB (hvalid : range.valid = true) (hend : range.EndsBy (2 ^ 64))
    (hbelow : validateBelow4G range = .ok ()) : range.EndsBy (2 ^ 32) := by
  have hlimit := ((validateBelow4G_ok_iff range).mp hbelow hvalid).1
  have hrl := toNat_rl_of_endsBy range hvalid hend
  have hsize : SIZE_4GB.toNat = 2 ^ 32 := rfl
  rw [BitVec.lt_def, hrl, hsize] at hlimit
  rw [DtRange.EndsBy]
  omega

end Apertures

section Bridge

variable (p : InitialisedRootBridge)

theorem busRange_wellFormed_iff :
    (p.bridge.busRange.rb.toNat ≤ p.bridge.busRange.rl.toNat ∧
        p.bridge.busRange.rl.toNat ≤ 255) ↔
      ∀ busMin busMax, p.node.busMin = .ok busMin → p.node.busMax = .ok busMax →
        busMin ≤ busMax ∧ busMax ≤ 255 := by
  obtain ⟨busMin, busMax, hmin, hmax, hrange, hvalid⟩ := p.busRange_bridge
  have h255 : (255 : U32).toNat = 255 := rfl
  rw [hrange, toNat_rb_rootBridgeBusRange, toNat_rl_rootBridgeBusRange busMin busMax hvalid,
    hmin, hmax]
  constructor
  · rintro ⟨-, hle⟩ busMin' busMax' hmin' hmax'
    cases hmin'
    cases hmax'
    split at hle
    · next horder =>
        refine ⟨horder, ?_⟩
        rwa [BitVec.le_def, h255]
    · omega
  · intro h
    obtain ⟨horder, hle⟩ := h busMin busMax rfl rfl
    rw [if_pos horder]
    rw [BitVec.le_def] at horder hle
    exact ⟨horder, h255 ▸ hle⟩

theorem forall_aperture_iff (P : PciAperture → DtRange → Prop) :
    (∀ a, (p.bridge.aperture a).valid = true → P a (p.bridge.aperture a)) ↔
      ∀ a range, p.node.lastEntry a = some range → range.valid = true → P a range := by
  refine forall_congr' fun a => ?_
  rw [p.aperture_bridge a]
  cases p.node.lastEntry a with
  | none => exact iff_of_true (fun h => by cases h) (fun range h => by cases h)
  | some range =>
      constructor
      · intro h range' hrange'
        cases hrange'
        exact h
      · intro h
        exact h range rfl

theorem wellFormedRootBridge_iff :
    WellFormedRootBridge p.bridge.toPciRootBridge ↔ WellFormedNode p.node := by
  have hbuses := busRange_wellFormed_iff p
  have hentries := forall_aperture_iff p fun _ range => range.EndsBy (2 ^ 64)
  constructor
  · intro h
    exact ⟨hbuses.mp ⟨h.busOrder, h.busMax_le⟩, hentries.mp h.apertures⟩
  · intro h
    have hapertures := hentries.mpr h.entries
    obtain ⟨horder, hmax⟩ := hbuses.mpr h.buses
    refine ⟨horder, hmax, hapertures, fun a hclass hvalid => ?_⟩
    exact endsBy_4GB _ hvalid (hapertures a hvalid)
      (((rootBridgeValidate_ok_iff _).mp p.validated).2 a hclass)

end Bridge

section SetBusNumbers

variable (bridge : PciHostBridge) (d : AcpiDescriptor)

theorem toNat_lastBus (hlen : d.addrLen ≠ 0) :
    (d.addrRangeMin + d.addrLen - 1).toNat =
      if 2 ^ 64 < d.addrRangeMin.toNat + d.addrLen.toNat then
        d.addrRangeMin.toNat + d.addrLen.toNat - 1 - 2 ^ 64
      else d.addrRangeMin.toNat + d.addrLen.toNat - 1 := by
  have hmin := d.addrRangeMin.isLt
  have hlt := d.addrLen.isLt
  have hone : (1 : U64).toNat = 1 := rfl
  have hpos : d.addrLen.toNat ≠ 0 := fun hzero => hlen (BitVec.eq_of_toNat_eq hzero)
  rw [BitVec.toNat_sub, BitVec.toNat_add, hone]
  split <;> omega

def AcceptsBuses (q : BusNumbersRequest) : Prop :=
  q.this = true ∧ q.configuration = some ⟨[d], ACPI_END_TAG_DESCRIPTOR⟩ ∧
    bridge.controller = q.rootBridgeHandle ∧ d.resType = ACPI_ADDRESS_SPACE_TYPE_BUS ∧
    d.addrLen ≠ 0 ∧ bridge.busRange.rb ≤ d.addrRangeMin ∧
    d.addrRangeMin + d.addrLen - 1 ≤ bridge.busRange.rl

theorem setBusNumbers_of_accepts (q : BusNumbersRequest) (h : AcceptsBuses bridge d q) :
    hostBridgeSetBusNumbers bridge q.this q.rootBridgeHandle q.configuration q.state =
      (.ok (), q.state.setNode .bus { q.state.nodes .bus with
        base := d.addrRangeMin, length := d.addrLen, status := .allocated }) := by
  obtain ⟨hthis, hconfiguration, hhandle, htype, hlen, hbase, hlimit⟩ := h
  have htag : (d.resType ≠ ACPI_ADDRESS_SPACE_TYPE_BUS ||
      ACPI_END_TAG_DESCRIPTOR ≠ ACPI_END_TAG_DESCRIPTOR) = false := by
    rw [htype]
    decide
  have hbuses : (d.addrRangeMin < bridge.busRange.rb ||
      d.addrRangeMin + d.addrLen - 1 > bridge.busRange.rl) = false := by
    rw [decide_eq_false (BitVec.not_lt.mpr hbase), decide_eq_false (BitVec.not_lt.mpr hlimit)]
    rfl
  rw [hthis, hconfiguration]
  simp only [hostBridgeSetBusNumbers]
  rw [if_neg (not_not.mpr hhandle), htag, if_neg Bool.false_ne_true, if_neg hlen, hbuses,
    if_neg Bool.false_ne_true]

theorem setBusNumbers_of_not_accepts (q : BusNumbersRequest)
    (h : ∀ d, ¬ AcceptsBuses bridge d q) :
    ∃ e, hostBridgeSetBusNumbers bridge q.this q.rootBridgeHandle q.configuration q.state =
      (.error e, q.state) := by
  rw [hostBridgeSetBusNumbers.eq_def]
  split
  · next configuration hthis hconfiguration =>
      split
      · exact ⟨_, rfl⟩
      · next hhandle =>
          split
          · next d hd =>
              split
              · exact ⟨_, rfl⟩
              · next htype =>
                  split
                  · exact ⟨_, rfl⟩
                  · next hlen =>
                      split
                      · exact ⟨_, rfl⟩
                      · next hbuses =>
                          simp only [Bool.or_eq_true, decide_eq_true_eq, not_or, ne_eq,
                            not_not, gt_iff_lt, BitVec.not_lt] at hhandle htype hbuses
                          refine absurd ⟨hthis, ?_, hhandle, htype.1, hlen, hbuses⟩ (h d)
                          rw [hconfiguration, ← hd, ← htype.2]
          · exact ⟨_, rfl⟩
  · exact ⟨_, rfl⟩

theorem busesInside_of_accepts (q : BusNumbersRequest) (h : AcceptsBuses bridge d q) :
    BusesInside bridge.busRange d ∨ WrapsIntoRange bridge q := by
  obtain ⟨hthis, hconfiguration, hhandle, htype, hlen, hbase, hlimit⟩ := h
  have hpos : d.addrLen.toNat ≠ 0 := fun hzero => hlen (BitVec.eq_of_toNat_eq hzero)
  rw [BitVec.le_def] at hbase hlimit
  rw [toNat_lastBus d hlen] at hlimit
  split at hlimit
  · next hwraps =>
      exact .inr ⟨hthis, hhandle, d, hconfiguration, htype, hbase, hwraps, by omega⟩
  · exact .inl ⟨Nat.pos_of_ne_zero hpos, hbase, by omega⟩

theorem accepts_of_wraps (q : BusNumbersRequest) (h : WrapsIntoRange bridge q) :
    ∃ d, AcceptsBuses bridge d q ∧ 2 ^ 64 < d.addrRangeMin.toNat + d.addrLen.toNat := by
  obtain ⟨hthis, hhandle, d, hconfiguration, htype, hbase, hwraps, hlimit⟩ := h
  have hmin := d.addrRangeMin.isLt
  have hlen : d.addrLen ≠ 0 := by
    intro hzero
    rw [hzero] at hwraps
    exact absurd hwraps (Nat.not_lt.mpr (Nat.le_of_lt hmin))
  refine ⟨d, ⟨hthis, hconfiguration, hhandle, htype, hlen, BitVec.le_def.mpr hbase, ?_⟩, hwraps⟩
  rw [BitVec.le_def, toNat_lastBus d hlen, if_pos hwraps]
  omega

theorem busNumbersExact_iff (q : BusNumbersRequest) :
    BusNumbersExact bridge q ↔ ¬ WrapsIntoRange bridge q := by
  constructor
  · intro hexact hwraps
    obtain ⟨d, haccepts, hover⟩ := accepts_of_wraps bridge q hwraps
    rw [BusNumbersExact, setBusNumbers_of_accepts bridge d q haccepts] at hexact
    obtain ⟨d', endDesc, hconfiguration, ⟨-, -, hinside⟩, -⟩ := hexact
    have hsame : d' = d := by
      rw [haccepts.2.1] at hconfiguration
      simpa using congrArg AcpiConfiguration.descriptors (Option.some.inj hconfiguration.symm)
    have hlimit := bridge.busRange.rl.isLt
    rw [hsame] at hinside
    omega
  · intro hwraps
    by_cases haccepts : ∃ d, AcceptsBuses bridge d q
    · obtain ⟨d, haccepts⟩ := haccepts
      rw [BusNumbersExact, setBusNumbers_of_accepts bridge d q haccepts]
      exact ⟨d, _, haccepts.2.1, (busesInside_of_accepts bridge d q haccepts).resolve_right hwraps,
        rfl⟩
    · obtain ⟨e, heq⟩ := setBusNumbers_of_not_accepts bridge q (not_exists.mp haccepts)
      rw [BusNumbersExact, heq]

end SetBusNumbers

/-- Bridge and bus numbers are well formed if and only if the node lists its buses in
order and below 256 and no last entry that runs over the end of the address space, and
the bus descriptor does not overflow into the range. -/
theorem rootBridge_wellFormed_iff (p : InitialisedRootBridge) (q : BusNumbersRequest) :
    WellFormedRootBridge p.bridge.toPciRootBridge ∧ BusNumbersExact p.bridge q ↔
      WellFormedNode p.node ∧ ¬ WrapsIntoRange p.bridge q := by
  rw [wellFormedRootBridge_iff, busNumbersExact_iff]

def busesOnlyBridge : InitialisedRootBridge where
  node := busesOnlyNode
  controller := 1
  bridge :=
    { rootBridgeAlloc busesOnlyNode.dtIo 1 with
      configReg := ⟨0x40000000, 0x40000000, 0x10000000, none⟩
      busRange := rootBridgeBusRange 0 255
      dmaAbove4G := true
      allocationAttributes := 1 }
  initialised := by decide
  validated := by decide

/-- All buses from 16 up to the last 64-bit number and over. -/
def overflowingBuses : BusNumbersRequest where
  this := true
  rootBridgeHandle := 1
  configuration := some ⟨[⟨ACPI_ADDRESS_SPACE_TYPE_BUS, 0, 0, 16, 0, 0, 0xFFFFFFFFFFFFFFF8⟩],
    ACPI_END_TAG_DESCRIPTOR⟩
  state := hostBridgeInit

/-- They are accepted, as if they ended at bus 7. -/
theorem overflowingBuses_accepted :
    ¬ (WellFormedRootBridge busesOnlyBridge.bridge.toPciRootBridge ∧
      BusNumbersExact busesOnlyBridge.bridge overflowingBuses) := by
  rintro ⟨-, d, endDesc, hconfiguration, ⟨-, -, hinside⟩, -⟩
  cases hconfiguration
  exact absurd hinside (by decide)

end FdtBusPkg
