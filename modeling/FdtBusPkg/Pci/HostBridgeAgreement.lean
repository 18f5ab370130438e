import FdtBusPkg.Pci.EcamLib

/-!
When the library, the driver and the PCD producer read one node alike. Only the last
entry of an aperture and the first I/O entry count; they are compared with what the
three loops make of them.
-/
namespace FdtBusPkg

/-- A node without `fdtbuspkg,pci-keep-config` whose ranges all parse and translate to
CPU addresses, accepted by the library and by the driver. -/
structure AcceptedPciHost extends InitialisedRootBridge where
  keepConfig_eq : node.keepConfig = false
  rangesEnd_eq : node.rangesEnd = .notFound
  translated : ∀ range ∈ node.ranges, range.busDtIo = none
  info : PciRootBridgeInfo
  processed : processPciHost node = .ok info

/-- One bus range, the same apertures and translations, and one I/O translation
published, if any is. -/
structure HostBridgesAgree (node : PciHostNode) (info : PciRootBridgeInfo)
    (bridge : PciRootBridge) : Prop where
  busBase : info.bus.base = bridge.busRange.rb
  busLimit : info.bus.limit = bridge.busRange.rl
  presence : ∀ a, (info.aperture a).present = (bridge.aperture a).valid
  base : ∀ a, (bridge.aperture a).valid = true → (info.aperture a).base = (bridge.aperture a).rb
  limit : ∀ a, (bridge.aperture a).valid = true →
    (info.aperture a).limit = (bridge.aperture a).rl
  translation : ∀ a, a ≠ .io → (info.aperture a).translation = (bridge.aperture a).rt
  ioTranslation : (processHandle node).map PciPcds.pciIoTranslation =
    .ok (rootBridgeIoTranslation bridge 0)

/-- A window that is not empty ends at or after its start; an empty one above 4 GB does
not start at zero. -/
def EntryBounded (a : PciAperture) (range : DtRange) : Prop :=
  if range.valid then range.rb ≤ range.rl else a.below4G = true ∨ range.rb ≠ 0

def PciHostNode.firstEntry (node : PciHostNode) (a : PciAperture) : Option DtRange :=
  node.ranges.find? (node.places a)

/-- The conditions on the node under which the readers agree. -/
structure ReadAlike (node : PciHostNode) : Prop where
  buses : ∀ busMin busMax, node.busMin = .ok busMin → node.busMax = .ok busMax →
    busMin ≤ busMax
  entries : ∀ a range, node.lastEntry a = some range → EntryBounded a range
  ioEntries : ∀ first last, node.firstEntry .io = some first → node.lastEntry .io = some last →
    last.valid = true ∧ first.rt = last.rt

section Entries

variable (range : DtRange) (a : PciAperture)

theorem rl_of_invalid (h : range.valid = false) : range.rl = range.rb - 1 := by
  have hlength : range.length = 0 := by simpa [DtRange.valid] using h
  have hzero : range.childBase + 0 = range.childBase := BitVec.add_zero _
  rw [DtRange.rl, hlength, hzero, setWidth_sub]
  rfl

theorem rangeAperture_limit :
    ((range.childBase.setWidth 64).setWidth 128 + range.length - 1).setWidth 64 = range.rl := by
  rw [DtRange.rl, setWidth_sub, setWidth_sub, BitVec.setWidth_add _ _ (by decide),
    BitVec.setWidth_add _ _ (by decide), BitVec.setWidth_setWidth_of_le _ (by decide),
    BitVec.setWidth_eq]

theorem rangeAperture_eq :
    rangeAperture range a =
      if a.below4G && (range.rb > MAX_UINT32 || range.rl > MAX_UINT32) then
        ⟨1, 0, if a = .io then 0 else range.rt⟩
      else
        ⟨range.rb, range.rl, if a = .io then 0 else range.rt⟩ := by
  simp only [rangeAperture, rangeAperture_limit]
  rw [← setWidth_sub, ← DtRange.rt, ← DtRange.rb]

theorem translation_rangeAperture (h : a ≠ .io) :
    (rangeAperture range a).translation = range.rt := by
  rw [rangeAperture_eq, if_neg h]
  split <;> rfl

theorem rangeAperture_of_valid (hvalid : range.valid = true)
    (hbelow : a.below4G = true → validateBelow4G range = .ok ()) :
    rangeAperture range a = ⟨range.rb, range.rl, if a = .io then 0 else range.rt⟩ := by
  rw [rangeAperture_eq]
  apply if_neg
  cases hclass : a.below4G with
  | false => simp
  | true =>
      obtain ⟨hlimit, hbase⟩ := (validateBelow4G_ok_iff range).mp (hbelow hclass) hvalid
      have hsize : SIZE_4GB.toNat = MAX_UINT32.toNat + 1 := rfl
      simp only [Bool.true_and, Bool.or_eq_true, decide_eq_true_eq, gt_iff_lt, BitVec.lt_def]
      rw [BitVec.lt_def] at hlimit hbase
      omega

theorem le_sub_one_iff (x : U64) : x ≤ x - 1 ↔ x = 0 := by
  have hlt := x.isLt
  have hone : (1 : U64).toNat = 1 := rfl
  have hzero : (0 : U64).toNat = 0 := rfl
  rw [BitVec.le_def, BitVec.toNat_sub, hone, ← BitVec.toNat_inj, hzero]
  omega

/-- An empty window is taken for a present one above 4 GB and at address zero only. -/
theorem present_of_invalid (hvalid : range.valid = false) :
    (rangeAperture range a).present = false ↔ a.below4G = true ∨ range.rb ≠ 0 := by
  have hlimit := rl_of_invalid range hvalid
  rw [rangeAperture_eq]
  cases hclass : a.below4G with
  | false =>
      simp only [Bool.false_and, Bool.false_eq_true, if_false, false_or]
      rw [PciRootBridgeAperture.present, hlimit, decide_eq_false_iff_not, le_sub_one_iff]
  | true =>
      simp only [Bool.true_and, true_or, iff_true]
      split
      · rfl
      · next hinside =>
          rw [PciRootBridgeAperture.present, hlimit, decide_eq_false_iff_not, le_sub_one_iff]
          intro hzero
          have hbase : range.rb = 0 := hzero
          rw [hlimit, hbase] at hinside
          exact hinside (by decide)

theorem present_rangeAperture_iff (hbelow : a.below4G = true → validateBelow4G range = .ok ()) :
    (rangeAperture range a).present = range.valid ↔ EntryBounded a range := by
  rw [EntryBounded]
  cases hvalid : range.valid with
  | true =>
      rw [rangeAperture_of_valid range a hvalid hbelow, PciRootBridgeAperture.present,
        decide_eq_true_eq, if_pos rfl]
  | false =>
      rw [if_neg (by decide)]
      exact present_of_invalid range a hvalid

end Entries

section Node

variable (node : PciHostNode)

theorem aperture_processRange (hkeep : node.keepConfig = false) (a : PciAperture)
    (apertures : PciAperture → PciRootBridgeAperture) (range : DtRange) :
    processRange node.childAddressCells apertures range a =
      if node.places a range then rangeAperture range a else apertures a := by
  rw [processRange, PciHostNode.places, hkeep, Bool.false_or]
  cases rangeHasPhysicalAddress range with
  | false => rfl
  | true =>
      simp only [Bool.not_true, Bool.false_eq_true, if_false, Bool.true_and]
      cases spaceCodeAperture (fbpPciGetRangeAttribute node.childAddressCells range.childBase) with
      | none => rfl
      | some b =>
          by_cases hb : b = a
          · simp [hb]
          · simp [hb, Function.update_of_ne (Ne.symm hb)]

theorem aperture_foldl_processRange (hkeep : node.keepConfig = false) (a : PciAperture) :
    node.ranges.foldl (processRange node.childAddressCells) noApertures a =
      ((node.lastEntry a).map (rangeAperture · a)).getD (noApertures a) :=
  LastWrite.read_foldl (processRange node.childAddressCells) (fun _ => True) (· a)
    (node.places a) (rangeAperture · a) (fun _ _ _ => trivial)
    (fun apertures range _ => aperture_processRange node hkeep a apertures range) node.ranges
    noApertures trivial

theorem processPciHost_ok (info : PciRootBridgeInfo) (h : processPciHost node = .ok info) :
    info.bus = ⟨busNumber node.busMin, busNumber node.busMax, 0⟩ ∧
      info.aperture = node.ranges.foldl (processRange node.childAddressCells) noApertures ∧
      ∃ reg ecamBase, node.ecamWindow = .ok reg ∧ fbpRegToPhysicalAddress reg = .ok ecamBase := by
  simp only [processPciHost] at h
  split at h
  · cases h
  · cases hreg : node.ecamWindow with
    | error e =>
        rw [hreg] at h
        cases h
    | ok reg =>
        cases hbase : fbpRegToPhysicalAddress reg with
        | error e =>
            simp only [hreg, hbase, bind, Except.bind] at h
            cases h
        | ok ecamBase =>
            simp only [hreg, hbase, bind, Except.bind, pure, Except.pure, Except.ok.injEq] at h
            subst h
            exact ⟨rfl, rfl, reg, ecamBase, rfl, hbase⟩

theorem setWidth_le_MAX_UINT32 (x : U128) : (x.setWidth 32).setWidth 64 ≤ MAX_UINT32 := by
  have hlt := (x.setWidth 32).isLt
  have hmax : MAX_UINT32.toNat = 2 ^ 32 - 1 := rfl
  rw [BitVec.le_def, BitVec.toNat_setWidth, hmax]
  omega

theorem spaceCodeAperture_eq_io_iff (code : U32) :
    spaceCodeAperture code = some .io ↔ code = EFI_DT_PCI_HOST_RANGE_IO := by
  rw [spaceCodeAperture]
  split
  · next h => simp [h]
  · next h =>
      refine ⟨fun hsome => ?_, fun hcode => absurd hcode h⟩
      split at hsome
      · cases hsome
      · split at hsome
        · cases hsome
        · split at hsome
          · cases hsome
          · split at hsome <;> cases hsome

theorem findIoTranslation_eq (hkeep : node.keepConfig = false) (entries : List DtRange) :
    findIoTranslation node.childAddressCells entries =
      (entries.find? (node.places .io)).map fun range => -range.rt := by
  induction entries with
  | nil => rfl
  | cons range rest ih =>
      have hplaces : (rangeHasPhysicalAddress range &&
          fbpPciGetRangeAttribute node.childAddressCells range.childBase =
            EFI_DT_PCI_HOST_RANGE_IO &&
          (range.childBase.setWidth 32).setWidth 64 ≤ MAX_UINT32 &&
          ((range.childBase + range.length - 1).setWidth 32).setWidth 64 ≤ MAX_UINT32) =
            node.places .io range := by
        rw [PciHostNode.places, hkeep, Bool.false_or, decide_eq_true (setWidth_le_MAX_UINT32 _),
          decide_eq_true (setWidth_le_MAX_UINT32 _), Bool.and_true, Bool.and_true]
        simp only [spaceCodeAperture_eq_io_iff]
      rw [findIoTranslation, hplaces, List.find?_cons]
      cases node.places .io range with
      | false => exact ih
      | true =>
          rw [if_pos rfl, Option.map_some, DtRange.rt]
          congr 1
          rw [setWidth_sub, setWidth_sub, BitVec.setWidth_setWidth_of_le _ (by decide),
            BitVec.setWidth_eq, BitVec.neg_sub, BitVec.sub_eq_add_neg, BitVec.add_comm]

theorem processHandle_ok (reg : DtReg) (ecamBase : U64) (hreg : node.ecamWindow = .ok reg)
    (hbase : fbpRegToPhysicalAddress reg = .ok ecamBase) :
    (processHandle node).map PciPcds.pciIoTranslation =
      .ok (findIoTranslation node.childAddressCells node.ranges) := by
  rw [processHandle, hreg]
  simp only [bind, Except.bind, hbase, pure, Except.pure, Except.map]

theorem firstEntry_eq_none_iff (a : PciAperture) :
    node.firstEntry a = none ↔ node.lastEntry a = none := by
  rw [PciHostNode.firstEntry, PciHostNode.lastEntry, List.find?_eq_none, List.find?_eq_none]
  simp only [List.mem_reverse]

end Node

namespace AcceptedPciHost

variable (p : AcceptedPciHost)

def Agree : Prop := HostBridgesAgree p.node p.info p.bridge.toPciRootBridge

theorem aperture_info (a : PciAperture) :
    p.info.aperture a = ((p.node.lastEntry a).map (rangeAperture · a)).getD (noApertures a) := by
  rw [(processPciHost_ok p.node p.info p.processed).2.1,
    aperture_foldl_processRange p.node p.keepConfig_eq]

theorem bus_iff :
    p.info.bus.limit = p.bridge.busRange.rl ↔
      ∀ busMin busMax, p.node.busMin = .ok busMin → p.node.busMax = .ok busMax →
        busMin ≤ busMax := by
  obtain ⟨busMin, busMax, hmin, hmax, hrange, hvalid⟩ := p.busRange_bridge
  have hlimit := toNat_rl_rootBridgeBusRange busMin busMax hvalid
  have hbus : p.info.bus.limit.toNat = busMax.toNat := by
    have hlt := busMax.isLt
    rw [(processPciHost_ok p.node p.info p.processed).1, hmax, busNumber, BitVec.toNat_setWidth]
    omega
  rw [← BitVec.toNat_inj, hbus, hrange, hlimit, hmin, hmax]
  constructor
  · intro h busMin' busMax' hmin' hmax'
    cases hmin'
    cases hmax'
    split at h
    · next hle => exact hle
    · omega
  · intro h
    rw [if_pos (h busMin busMax rfl rfl)]

theorem busBase : p.info.bus.base = p.bridge.busRange.rb := by
  obtain ⟨busMin, busMax, hmin, -, hrange, -⟩ := p.busRange_bridge
  have hlt := busMin.isLt
  rw [(processPciHost_ok p.node p.info p.processed).1, hmin, hrange, ← BitVec.toNat_inj,
    toNat_rb_rootBridgeBusRange, busNumber, BitVec.toNat_setWidth]
  omega

theorem presence_iff (a : PciAperture) :
    (p.info.aperture a).present = (p.bridge.aperture a).valid ↔
      ∀ range, p.node.lastEntry a = some range → EntryBounded a range := by
  rw [p.aperture_info, p.aperture_bridge]
  cases hentry : p.node.lastEntry a with
  | none =>
      have habsent : (noApertures a).present = zeroRange.valid := by
        cases a <;> decide
      exact iff_of_true habsent (by simp)
  | some range =>
      have hbelow := p.below4G_of_entry a range hentry
      refine (present_rangeAperture_iff range a hbelow).trans ?_
      constructor
      · intro h range' hrange'
        cases hrange'
        exact h
      · intro h
        exact h range rfl

theorem bounds (a : PciAperture) (h : (p.bridge.aperture a).valid = true) :
    (p.info.aperture a).base = (p.bridge.aperture a).rb ∧
      (p.info.aperture a).limit = (p.bridge.aperture a).rl := by
  rw [p.aperture_bridge] at h
  rw [p.aperture_info, p.aperture_bridge]
  cases hentry : p.node.lastEntry a with
  | none =>
      rw [hentry] at h
      cases h
  | some range =>
      rw [hentry] at h
      have hbelow := p.below4G_of_entry a range hentry
      simp only [Option.map_some, Option.getD_some]
      rw [rangeAperture_of_valid range a h hbelow]
      exact ⟨rfl, rfl⟩

theorem translation (a : PciAperture) (h : a ≠ .io) :
    (p.info.aperture a).translation = (p.bridge.aperture a).rt := by
  rw [p.aperture_info, p.aperture_bridge]
  cases p.node.lastEntry a with
  | none => cases a <;> decide
  | some range => exact translation_rangeAperture range a h

theorem ioTranslation_iff :
    (processHandle p.node).map PciPcds.pciIoTranslation =
        .ok (rootBridgeIoTranslation p.bridge.toPciRootBridge 0) ↔
      ∀ first last, p.node.firstEntry .io = some first → p.node.lastEntry .io = some last →
        last.valid = true ∧ first.rt = last.rt := by
  obtain ⟨-, -, reg, ecamBase, hreg, hbase⟩ := processPciHost_ok p.node p.info p.processed
  have hio : p.bridge.ioRange = (p.node.lastEntry .io).getD zeroRange := p.aperture_bridge .io
  rw [processHandle_ok p.node reg ecamBase hreg hbase, Except.ok.injEq,
    findIoTranslation_eq p.node p.keepConfig_eq, rootBridgeIoTranslation, hio]
  change (p.node.firstEntry .io).map (fun range => -range.rt) = _ ↔ _
  cases hfirst : p.node.firstEntry .io with
  | none =>
      rw [(firstEntry_eq_none_iff p.node .io).mp hfirst]
      exact iff_of_true (by decide) (by simp)
  | some first =>
      cases hlast : p.node.lastEntry .io with
      | none =>
          rw [(firstEntry_eq_none_iff p.node .io).mpr hlast] at hfirst
          cases hfirst
      | some last =>
          cases hvalid : last.valid with
          | false => simp [hvalid]
          | true => simp [hvalid]

end AcceptedPciHost

/-- The readers agree if and only if the buses are in order, the last entry of every
aperture is bounded, and the last I/O entry is not empty and translates as the first. -/
theorem hostBridges_agree_iff (p : AcceptedPciHost) : p.Agree ↔ ReadAlike p.node := by
  constructor
  · intro h
    exact ⟨p.bus_iff.mp h.busLimit, fun a => (p.presence_iff a).mp (h.presence a),
      p.ioTranslation_iff.mp h.ioTranslation⟩
  · intro h
    exact ⟨p.busBase, p.bus_iff.mpr h.buses, fun a => (p.presence_iff a).mpr (h.entries a),
      fun a ha => (p.bounds a ha).1, fun a ha => (p.bounds a ha).2, p.translation,
      p.ioTranslation_iff.mpr h.ioEntries⟩

/-- An empty 64-bit memory window at bus address zero. -/
def emptyWindowRange : DtRange := ⟨0x030000000000000000000000, 0, 0, 0, none⟩

def emptyWindowNode : PciHostNode := { busesOnlyNode with ranges := [emptyWindowRange] }

def emptyWindowHost : AcceptedPciHost where
  node := emptyWindowNode
  controller := 1
  keepConfig_eq := rfl
  rangesEnd_eq := rfl
  translated := by decide
  info :=
    { allocationAttributes := 3
      bus := ⟨0, 255, 0⟩
      aperture := [emptyWindowRange].foldl (processRange 3) noApertures }
  processed := rfl
  bridge :=
    { rootBridgeAlloc emptyWindowNode.dtIo 1 with
      configReg := ⟨0x40000000, 0x40000000, 0x10000000, none⟩
      busRange := rootBridgeBusRange 0 255
      memAbove4GRange := emptyWindowRange
      dmaAbove4G := true
      allocationAttributes := 1 }
  initialised := by decide
  validated := by decide

/-- The library takes the empty window for the whole address space. -/
theorem emptyWindow_present_for_library : ¬ emptyWindowHost.Agree := by
  intro h
  exact absurd (h.presence .memAbove4G) (by decide)

end FdtBusPkg
