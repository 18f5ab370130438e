import FdtBusPkg.DtBus.Create
import FdtBusPkg.DtBus.Dma

/-!
DMA limits down the tree, against the least last address of all `dma-ranges`
entries in exact arithmetic. The limit is exact as long as no entry beyond 64
bits turns into a lower address when it is narrowed.
-/
namespace FdtBusPkg

/-- A devicetree that libfdt can read: a property is there or it is not. -/
structure Devicetree where
  fdt : Fdt
  readable (fdtNode : Int) (name : String) : fdt.getprop fdtNode name ≠ .error .other

namespace RangeTriplet

/-- The last address of an entry, in exact arithmetic. -/
def last (t : RangeTriplet) : Nat :=
  if t.childSize = 0 then t.childBase.toNat else t.childBase.toNat + t.childSize.toNat - 1

def IsIdentity (t : RangeTriplet) : Prop := t.childBase = t.parentBase

instance (t : RangeTriplet) : Decidable t.IsIdentity := inferInstanceAs (Decidable (_ = _))

end RangeTriplet

/-- The least of some addresses and of the last 64-bit one. -/
def leastAddress (addresses : List Nat) : Nat := addresses.foldr min (2 ^ 64 - 1)

theorem leastAddress_le (addresses : List Nat) : leastAddress addresses ≤ 2 ^ 64 - 1 := by
  induction addresses with
  | nil => exact Nat.le_refl _
  | cons a rest ih => exact Nat.le_trans (Nat.min_le_right _ _) ih

theorem le_leastAddress (addresses : List Nat) (b : Nat) (hb : b ≤ 2 ^ 64 - 1) :
    b ≤ leastAddress addresses ↔ ∀ a ∈ addresses, b ≤ a := by
  induction addresses with
  | nil => simpa [leastAddress] using hb
  | cons a rest ih =>
      have hcons : leastAddress (a :: rest) = min a (leastAddress rest) := rfl
      rw [hcons, Nat.le_min, ih]
      simp

theorem leastAddress_append (xs ys : List Nat) :
    leastAddress (xs ++ ys) = min (leastAddress xs) (leastAddress ys) := by
  induction xs with
  | nil => exact (Nat.min_eq_right (leastAddress_le ys)).symm
  | cons x xs ih =>
      have hcons (l : List Nat) : leastAddress (x :: l) = min x (leastAddress l) := rfl
      rw [List.cons_append, hcons, hcons, ih, Nat.min_assoc]

section Loop

variable (mem : Nat → U8) (device : DtDevice)

/-- What the loop does to the flags and the limit, entry by entry. -/
def narrowTriplets : List RangeTriplet → Uintn → U64 → Uintn × U64
  | [], flags, limit => (flags, limit)
  | t :: rest, flags, limit =>
    if t.childBase ≠ t.parentBase then
      (flags ||| DT_DEVICE_NON_IDENTITY_DMA, limit)
    else
      let address := maxChildAddress t.childBase t.childSize
      narrowTriplets rest flags (if limit > address then address else limit)

theorem dmaRangesLoop_triplet (fuel : Nat) (p : DtProperty) (flags : Uintn) (limit : U64)
    (hca : 0 < device.info.childAddressCells.val) (ha : 0 < device.info.addressCells.val)
    (hcells : tripletCells device ≤ p.cells) :
    dmaRangesLoop mem device (fuel + 1) p flags limit =
      let t := tripletAt mem device p.iter
      if t.childBase ≠ t.parentBase then
        (.ok (), flags ||| DT_DEVICE_NON_IDENTITY_DMA, limit)
      else
        let address := maxChildAddress t.childBase t.childSize
        dmaRangesLoop mem device fuel (p.advance (tripletCells device) hcells) flags
          (if limit > address then address else limit) := by
  have hlt : p.iter < p.end_ := by
    have := p.four_mul_cells_le
    rw [tripletCells] at hcells
    omega
  have hfit := hcells
  rw [tripletCells] at hfit
  have h1 : device.info.childAddressCells.val ≤ p.cells := by omega
  rw [dmaRangesLoop, if_pos hlt]
  simp only [dtIoParsePropChildBusAddress, dtIoParsePropBusAddress, dtIoParsePropChildSize,
    parseAddressElem_zero, parseSizeElem_zero]
  rw [dif_pos ⟨h1, hca⟩]
  simp only [DtProperty.cells_advance]
  rw [dif_pos ⟨by omega, ha⟩]
  simp only [DtProperty.cells_advance]
  rw [dif_pos (by omega)]
  simp only [tripletAt, tripletCells, DtProperty.iter_advance, DtProperty.advance_advance,
    Nat.mul_add, Nat.add_assoc]

theorem dmaRangesLoop_end (fuel : Nat) (p : DtProperty) (flags : Uintn) (limit : U64)
    (h : device.info.childAddressCells.val = 0 ∨ device.info.addressCells.val = 0 ∨
      p.cells < tripletCells device) :
    dmaRangesLoop mem device (fuel + 1) p flags limit =
      (if p.iter < p.end_ then .error .notFound else .ok (), flags, limit) := by
  rw [dmaRangesLoop]
  split
  · simp only [dtIoParsePropChildBusAddress, dtIoParsePropBusAddress,
      dtIoParsePropChildSize, parseAddressElem_zero, parseSizeElem_zero]
    rw [tripletCells] at h
    by_cases h1 : device.info.childAddressCells.val ≤ p.cells ∧
        0 < device.info.childAddressCells.val
    · rw [dif_pos h1]
      simp only [DtProperty.cells_advance]
      by_cases h2 : device.info.addressCells.val ≤
          p.cells - device.info.childAddressCells.val ∧ 0 < device.info.addressCells.val
      · rw [dif_pos h2]
        simp only [DtProperty.cells_advance]
        rw [dif_neg (by omega)]
      · rw [dif_neg h2]
    · rw [dif_neg h1]
  · rfl

theorem dmaRangesLoop_triplets (hca : 0 < device.info.childAddressCells.val)
    (ha : 0 < device.info.addressCells.val) (count fuel : Nat) (p : DtProperty) (flags : Uintn)
    (limit : U64) (hcount : count = p.cells / tripletCells device) (hfuel : count ≤ fuel) :
    (dmaRangesLoop mem device fuel p flags limit).2 =
      narrowTriplets (tripletsFrom mem device count p.iter) flags limit := by
  have hpos : 0 < tripletCells device := by
    rw [tripletCells]
    omega
  induction count generalizing fuel p limit with
  | zero =>
      have hlt : p.cells < tripletCells device := by
        obtain h | h := (Nat.div_eq_zero_iff).mp hcount.symm
        · omega
        · exact h
      cases fuel with
      | zero => rfl
      | succ fuel => rw [dmaRangesLoop_end mem device fuel p flags limit (.inr (.inr hlt))]; rfl
  | succ count ih =>
      obtain ⟨fuel, rfl⟩ : ∃ f, fuel = f + 1 := ⟨fuel - 1, by omega⟩
      have hcells : tripletCells device ≤ p.cells := by
        by_contra hlt
        rw [Nat.div_eq_of_lt (by omega)] at hcount
        omega
      have hnext : count = (p.advance (tripletCells device) hcells).cells /
          tripletCells device := by
        rw [Nat.div_eq_sub_div hpos hcells] at hcount
        rw [DtProperty.cells_advance]
        omega
      rw [dmaRangesLoop_triplet mem device fuel p flags limit hca ha hcells, tripletsFrom,
        narrowTriplets]
      dsimp only
      split
      · rfl
      · exact ih fuel _ _ hnext (by omega)

/-- The loop folds the complete triplets, whether it ends at the end of the property or
at a truncated one. -/
theorem dmaRangesLoop_eq (p : DtProperty) (flags : Uintn) (limit : U64) :
    (dmaRangesLoop mem device (p.cells + 1) p flags limit).2 =
      narrowTriplets (rangesTriplets mem device p) flags limit := by
  rw [rangesTriplets]
  by_cases h : device.info.childAddressCells.val = 0 ∨ device.info.addressCells.val = 0
  · rw [if_pos h]
    rw [dmaRangesLoop_end mem device _ p flags limit (h.elim .inl (fun h => .inr (.inl h)))]
    rfl
  · rw [if_neg h]
    have hfuel : p.cells / tripletCells device ≤ p.cells + 1 :=
      Nat.le_succ_of_le (Nat.div_le_self _ _)
    exact dmaRangesLoop_triplets mem device (by omega) (by omega) _ _ p flags limit rfl hfuel

end Loop

section Narrow

theorem toNat_maxChildAddress (t : RangeTriplet) :
    (maxChildAddress t.childBase t.childSize).toNat = t.last % 2 ^ 64 := by
  have hbase := t.childBase.isLt
  have hsize := t.childSize.isLt
  rw [maxChildAddress, RangeTriplet.last]
  by_cases hzero : t.childSize = 0
  · rw [if_neg (by simpa using hzero), if_pos hzero, BitVec.toNat_setWidth]
  · rw [if_pos hzero, if_neg hzero]
    have hpos : t.childSize.toNat ≠ 0 := fun h => hzero (BitVec.eq_of_toNat_eq h)
    have hone : (1 : U128).toNat = 1 := rfl
    have hsub : (t.childSize - 1).toNat = t.childSize.toNat - 1 := by
      rw [BitVec.toNat_sub, hone]
      omega
    rw [BitVec.toNat_setWidth, BitVec.toNat_add, BitVec.toNat_setWidth, BitVec.toNat_setWidth, hsub]
    omega

theorem toNat_narrow (limit address : U64) :
    (if limit > address then address else limit).toNat = min limit.toNat address.toNat := by
  have hlt : limit > address ↔ address.toNat < limit.toNat := Iff.rfl
  split
  · next h => exact (Nat.min_eq_right (Nat.le_of_lt (hlt.mp h))).symm
  · next h => exact (Nat.min_eq_left (Nat.le_of_not_lt (fun h' => h (hlt.mpr h')))).symm

theorem narrowTriplets_identity (ts : List RangeTriplet) (flags : Uintn) (limit : U64)
    (h : ∀ t ∈ ts, t.IsIdentity) :
    (narrowTriplets ts flags limit).1 = flags ∧
      (narrowTriplets ts flags limit).2.toNat =
        min limit.toNat (leastAddress (ts.map fun t => t.last % 2 ^ 64)) := by
  induction ts generalizing limit with
  | nil =>
      have hlimit := limit.isLt
      refine ⟨rfl, (Nat.min_eq_left ?_).symm⟩
      exact Nat.le_sub_one_of_lt hlimit
  | cons t rest ih =>
      have hsame : ¬ t.childBase ≠ t.parentBase := fun hne => hne (h t (List.mem_cons_self))
      rw [narrowTriplets, if_neg hsame]
      dsimp only
      obtain ⟨hflags, hlimit⟩ := ih
        (if limit > maxChildAddress t.childBase t.childSize then
          maxChildAddress t.childBase t.childSize else limit)
        (fun t' ht' => h t' (List.mem_cons_of_mem _ ht'))
      refine ⟨hflags, ?_⟩
      rw [hlimit, toNat_narrow, toNat_maxChildAddress, Nat.min_assoc]
      rfl

theorem narrowTriplets_nonIdentity (ts : List RangeTriplet) (flags : Uintn) (limit : U64)
    (h : ∃ t ∈ ts, ¬ t.IsIdentity) :
    (narrowTriplets ts flags limit).1 = flags ||| DT_DEVICE_NON_IDENTITY_DMA := by
  induction ts generalizing limit with
  | nil => simp at h
  | cons t rest ih =>
      rw [narrowTriplets]
      by_cases hsame : t.childBase = t.parentBase
      · rw [if_neg (fun hne => hne hsame)]
        obtain ⟨t', ht', hnot⟩ := h
        obtain rfl | ht' := List.mem_cons.mp ht'
        · exact absurd hsame hnot
        · exact ih _ ⟨t', ht', hnot⟩
      · rw [if_pos hsame]

theorem flagged_or (flags : Uintn) :
    (flags ||| DT_DEVICE_NON_IDENTITY_DMA) &&& DT_DEVICE_NON_IDENTITY_DMA ≠ 0 := by
  have hself : (flags ||| DT_DEVICE_NON_IDENTITY_DMA) &&& DT_DEVICE_NON_IDENTITY_DMA =
      DT_DEVICE_NON_IDENTITY_DMA := by
    ext i
    simpa using fun hbit => .inr hbit
  rw [hself]
  decide

theorem flagged_critical (flags : Uintn) :
    (flags ||| DT_DEVICE_CRITICAL) &&& DT_DEVICE_NON_IDENTITY_DMA =
      flags &&& DT_DEVICE_NON_IDENTITY_DMA := by
  have hapart : DT_DEVICE_CRITICAL &&& DT_DEVICE_NON_IDENTITY_DMA = 0 := rfl
  rw [BitVec.and_comm, BitVec.and_or_distrib_left, BitVec.and_comm _ DT_DEVICE_CRITICAL, hapart,
    BitVec.and_comm]
  simp

theorem flagged_inherited (flags : Uintn) :
    flags &&& DT_DEVICE_INHERITED &&& DT_DEVICE_NON_IDENTITY_DMA =
      flags &&& DT_DEVICE_NON_IDENTITY_DMA := by
  rw [DT_DEVICE_INHERITED, BitVec.and_assoc, BitVec.and_self]

end Narrow

section Tree

variable (fdt : Fdt)

/-- The `dma-ranges` entries of a device. -/
def dmaTriplets (device : DtDevice) : List RangeTriplet :=
  match dtIoGetProp fdt device "dma-ranges" with
  | .error _ => []
  | .ok p => rangesTriplets fdt.mem device p

/-- The entries of a device and of its ancestors. -/
def dmaTripletsUp : DtDevice → List RangeTriplet
  | .root i => dmaTriplets fdt (.root i)
  | .child i parent => dmaTriplets fdt (.child i parent) ++ dmaTripletsUp parent

/-- The two records are about the same node, with the same cells. -/
structure SameNode (i j : DtDeviceInfo) : Prop where
  fdtNode : i.fdtNode = j.fdtNode
  addressCells : i.addressCells = j.addressCells
  childAddressCells : i.childAddressCells = j.childAddressCells
  childSizeCells : i.childSizeCells = j.childSizeCells

theorem rangesTriplets_congr (mem : Nat → U8) (d e : DtDevice) (p : DtProperty)
    (h : SameNode d.info e.info) : rangesTriplets mem d p = rangesTriplets mem e p := by
  have hcells : tripletCells d = tripletCells e := by
    rw [tripletCells, tripletCells, h.addressCells, h.childAddressCells, h.childSizeCells]
  have hat (a : Nat) : tripletAt mem d a = tripletAt mem e a := by
    rw [tripletAt, tripletAt, h.addressCells, h.childAddressCells, h.childSizeCells]
  have hfrom (count a : Nat) : tripletsFrom mem d count a = tripletsFrom mem e count a := by
    induction count generalizing a with
    | zero => rfl
    | succ count ih => rw [tripletsFrom, tripletsFrom, hat, hcells, ih]
  rw [rangesTriplets, rangesTriplets, h.addressCells, h.childAddressCells, hcells, hfrom]

theorem dmaTriplets_congr (d e : DtDevice) (h : SameNode d.info e.info) :
    dmaTriplets fdt d = dmaTriplets fdt e := by
  rw [dmaTriplets, dmaTriplets, dtIoGetProp, dtIoGetProp, h.fdtNode]
  split
  · rfl
  · exact rangesTriplets_congr fdt.mem d e _ h

theorem dmaTripletsUp_congr (d e : DtDevice) (h : SameNode d.info e.info)
    (hparent : d.parent? = e.parent?) : dmaTripletsUp fdt d = dmaTripletsUp fdt e := by
  cases d with
  | root i =>
      cases e with
      | root j => exact dmaTriplets_congr fdt _ _ h
      | child j q => simp at hparent
  | child i p =>
      cases e with
      | root j => simp at hparent
      | child j q =>
          rw [dmaTripletsUp, dmaTripletsUp, dmaTriplets_congr fdt _ _ h, Option.some.inj hparent]

end Tree

section Init

variable (isCoherent : Bool) (uninit : DtProperty) (tree : Devicetree)

def inheritedLimit (device : DtDevice) : U64 :=
  match device.parent? with
  | none => MAX_UINT64
  | some parent => parent.info.maxCpuDmaAddress

/-- The device after DMA initialisation: the flags are those the entries leave, and so is
the limit unless the device is flagged. -/
structure DmaInitialised (device d : DtDevice) : Prop where
  parent : d.parent? = device.parent?
  node : SameNode d.info device.info
  flags : d.info.flags = (narrowTriplets (dmaTriplets tree.fdt device) device.info.flags
    (inheritedLimit device)).1
  limit : d.info.flags &&& DT_DEVICE_NON_IDENTITY_DMA = 0 →
    d.info.maxCpuDmaAddress = (narrowTriplets (dmaTriplets tree.fdt device) device.info.flags
      (inheritedLimit device)).2

theorem dmaInitRanges_initialised (device d : DtDevice) (p : DtProperty)
    (hprop : dtIoGetProp tree.fdt device "dma-ranges" = .ok p)
    (hparent : d.parent? = device.parent?) (hnode : SameNode d.info device.info)
    (hflags : d.info.flags = device.info.flags)
    (hlimit : d.info.maxCpuDmaAddress = inheritedLimit device) :
    DmaInitialised tree device (dmaInitRanges tree.fdt.mem d p).2 := by
  have htriplets : dmaTriplets tree.fdt device = rangesTriplets tree.fdt.mem d p := by
    rw [dmaTriplets, hprop]
    exact (rangesTriplets_congr tree.fdt.mem d device p hnode).symm
  have hloop := dmaRangesLoop_eq tree.fdt.mem d p device.info.flags (inheritedLimit device)
  rw [← htriplets] at hloop
  rw [dmaInitRanges]
  split
  · next hempty =>
    have hnone : dmaTriplets tree.fdt device = [] := by
      have hcells : p.cells = 0 := by
        have hbegin := p.begin_le
        rw [DtProperty.cells]
        omega
      rw [htriplets, rangesTriplets]
      split
      · rfl
      · rw [hcells, Nat.zero_div]
        rfl
    refine ⟨hparent, hnode, ?_, fun _ => ?_⟩
    · rw [hnone, narrowTriplets]
      exact hflags
    · rw [hnone, narrowTriplets]
      exact hlimit
  · rw [hflags, hlimit]
    generalize dmaRangesLoop tree.fdt.mem d (p.cells + 1) p device.info.flags
      (inheritedLimit device) = run at hloop
    obtain ⟨status, flags, limit⟩ := run
    have hset (limit : U64) : SameNode
        (d.setInfo fun i => { i with flags, maxCpuDmaAddress := limit }).info device.info := by
      rw [DtDevice.info_setInfo]
      exact ⟨hnode.1, hnode.2, hnode.3, hnode.4⟩
    cases status with
    | error e =>
        refine ⟨(DtDevice.parent?_setInfo _ _).trans hparent, hset limit, ?_, fun _ => ?_⟩
        · rw [← hloop, DtDevice.info_setInfo]
        · rw [← hloop, DtDevice.info_setInfo]
    | ok _ =>
        refine ⟨(DtDevice.parent?_setInfo _ _).trans hparent, hset _, ?_, fun hclear => ?_⟩
        · rw [← hloop, DtDevice.info_setInfo]
        · rw [DtDevice.info_setInfo] at hclear ⊢
          rw [← hloop]
          dsimp only at hclear ⊢
          rw [if_neg (fun hflag => hflag hclear)]

theorem dtIoGetProp_congr (fdt : Fdt) (d e : DtDevice) (name : String)
    (h : d.info.fdtNode = e.info.fdtNode) : dtIoGetProp fdt d name = dtIoGetProp fdt e name := by
  rw [dtIoGetProp, dtIoGetProp, h]

theorem dtIoGetProp_readable (device : DtDevice) (name : String) (e : EfiError)
    (h : dtIoGetProp tree.fdt device name = .error e) : e = .notFound := by
  rw [dtIoGetProp] at h
  split at h
  · exact (Except.error.inj h).symm
  · next hother => exact absurd hother (tree.readable _ _)
  · exact absurd h (by simp)

theorem dmaInitialised_of_coherence (device : DtDevice) (coherent : Bool) (stale : DtProperty) :
    let d := (device.setInfo fun i =>
      { i with maxCpuDmaAddress := inheritedLimit device }).setInfo fun i =>
        { i with isDmaCoherent := coherent }
    DmaInitialised tree device
      (match dtIoGetProp tree.fdt d "dma-ranges" with
        | .error .notFound => ((.ok (), d) : EfiStatus × DtDevice)
        | .error _ => dmaInitRanges tree.fdt.mem d stale
        | .ok p => dmaInitRanges tree.fdt.mem d p).2 := by
  intro d
  have hparent : d.parent? = device.parent? := by simp [d]
  have hinfo : d.info = { device.info with
      maxCpuDmaAddress := inheritedLimit device, isDmaCoherent := coherent } := by
    simp [d]
  have hnode : SameNode d.info device.info := by
    rw [hinfo]
    exact ⟨rfl, rfl, rfl, rfl⟩
  have hget := dtIoGetProp_congr tree.fdt d device "dma-ranges" hnode.fdtNode
  rw [hget]
  cases hprop : dtIoGetProp tree.fdt device "dma-ranges" with
  | error e =>
      obtain rfl := dtIoGetProp_readable tree device "dma-ranges" e hprop
      have hempty : dmaTriplets tree.fdt device = [] := by rw [dmaTriplets, hprop]
      refine ⟨hparent, hnode, ?_, fun _ => ?_⟩
      · rw [hempty, narrowTriplets, hinfo]
      · rw [hempty, narrowTriplets, hinfo]
  | ok p =>
      exact dmaInitRanges_initialised tree device d p hprop hparent hnode (by rw [hinfo])
        (by rw [hinfo])

/-- On a readable devicetree DMA initialisation folds the entries of the node. -/
theorem dtDeviceCreateDmaInit_initialised (device : DtDevice) :
    DmaInitialised tree device
      (dtDeviceCreateDmaInit isCoherent uninit tree.fdt device).2 := by
  rw [dtDeviceCreateDmaInit]
  dsimp only
  split
  · next p hcoherence => exact dmaInitialised_of_coherence tree device _ p
  · next hcoherence => exact dmaInitialised_of_coherence tree device _ uninit
  · next e hne hcoherence =>
    exact absurd (dtIoGetProp_readable tree _ _ e hcoherence) (by simpa using hne)

end Init

section Created

variable (isCoherent : Bool) (uninit : DtProperty) (tree : Devicetree)

/-- Registration and `SetCallbacks` fill in the last fields of a device. -/
def DtDevice.registered (d : DtDevice) (handle : EfiHandle) (callbacks : Option DtIoCallbacks) :
    DtDevice :=
  d.setInfo fun i => { i with handle, callbacks }

/-- The devices created from a devicetree, each after its parent. -/
inductive CreatedFrom : CreatedDevice → Prop
  | root (dtIo : DtIoRef) (fdtNode : Int) :
      CreatedFrom (dtDevicePopulate isCoherent uninit tree.fdt dtIo fdtNode none 0)
  | child {c : CreatedDevice} (parent : CreatedFrom c) (handle : EfiHandle)
      (callbacks : Option DtIoCallbacks) (dtIo : DtIoRef) (fdtNode : Int) :
      CreatedFrom (dtDevicePopulate isCoherent uninit tree.fdt dtIo fdtNode
        (some (c.device.registered handle callbacks)) c.device.info.flags)

/-- What the flags and the limit say of the entries of a device and its ancestors. -/
structure DmaNarrowed (fdt : Fdt) (d : DtDevice) : Prop where
  flagged : d.info.flags &&& DT_DEVICE_NON_IDENTITY_DMA ≠ 0 ↔
    ∃ t ∈ dmaTripletsUp fdt d, ¬ t.IsIdentity
  limit (h : ∀ t ∈ dmaTripletsUp fdt d, t.IsIdentity) : d.info.maxCpuDmaAddress.toNat =
    leastAddress ((dmaTripletsUp fdt d).map fun t => t.last % 2 ^ 64)

theorem dmaNarrowed_setInfo (fdt : Fdt) (d e : DtDevice) (h : DmaNarrowed fdt d)
    (hparent : e.parent? = d.parent?) (hnode : SameNode e.info d.info)
    (hflags : e.info.flags &&& DT_DEVICE_NON_IDENTITY_DMA =
      d.info.flags &&& DT_DEVICE_NON_IDENTITY_DMA)
    (hlimit : e.info.maxCpuDmaAddress = d.info.maxCpuDmaAddress) : DmaNarrowed fdt e := by
  have hup := dmaTripletsUp_congr fdt e d hnode hparent
  refine ⟨?_, ?_⟩
  · rw [hflags, hup]
    exact h.flagged
  · rw [hlimit, hup]
    exact h.limit

/-- One level of the tree: the own entries narrow what the parent left. -/
theorem dmaNarrowed_of_initialised (device d : DtDevice) (up : List RangeTriplet)
    (hup : dmaTripletsUp tree.fdt device = dmaTriplets tree.fdt device ++ up)
    (hflags : device.info.flags &&& DT_DEVICE_NON_IDENTITY_DMA ≠ 0 ↔ ∃ t ∈ up, ¬ t.IsIdentity)
    (hlimit : (∀ t ∈ up, t.IsIdentity) →
      (inheritedLimit device).toNat = leastAddress (up.map fun t => t.last % 2 ^ 64))
    (h : DmaInitialised tree device d) : DmaNarrowed tree.fdt d := by
  have hall := dmaTripletsUp_congr tree.fdt d device h.node h.parent
  rw [hup] at hall
  have hflagged : d.info.flags &&& DT_DEVICE_NON_IDENTITY_DMA ≠ 0 ↔
      ∃ t ∈ dmaTripletsUp tree.fdt d, ¬ t.IsIdentity := by
    rw [hall, h.flags]
    by_cases hown : ∃ t ∈ dmaTriplets tree.fdt device, ¬ t.IsIdentity
    · rw [narrowTriplets_nonIdentity _ _ _ hown]
      obtain ⟨t, ht, hnot⟩ := hown
      exact iff_of_true (flagged_or _) ⟨t, List.mem_append_left _ ht, hnot⟩
    · have hid : ∀ t ∈ dmaTriplets tree.fdt device, t.IsIdentity := by
        intro t ht
        by_contra hnot
        exact hown ⟨t, ht, hnot⟩
      rw [(narrowTriplets_identity _ _ _ hid).1, hflags]
      constructor
      · rintro ⟨t, ht, hnot⟩
        exact ⟨t, List.mem_append_right _ ht, hnot⟩
      · rintro ⟨t, ht, hnot⟩
        obtain ht | ht := List.mem_append.mp ht
        · exact absurd (hid t ht) hnot
        · exact ⟨t, ht, hnot⟩
  refine ⟨hflagged, fun hid => ?_⟩
  have hclear : d.info.flags &&& DT_DEVICE_NON_IDENTITY_DMA = 0 := by
    by_contra hset
    obtain ⟨t, ht, hnot⟩ := hflagged.mp hset
    exact hnot (hid t ht)
  rw [hall] at hid ⊢
  have hown := narrowTriplets_identity _ device.info.flags (inheritedLimit device)
    (fun t ht => hid t (List.mem_append_left up ht))
  rw [h.limit hclear, hown.2, hlimit (fun t ht => hid t (List.mem_append_right _ ht)),
    List.map_append, leastAddress_append, Nat.min_comm]

theorem sameNode_refl (i : DtDeviceInfo) : SameNode i i := ⟨rfl, rfl, rfl, rfl⟩

theorem device_dtDevicePopulate (fdt : Fdt) (dtIo : DtIoRef) (fdtNode : Int)
    (parent : Option DtDevice) (parentFlags : Uintn) :
    ∃ critical : Bool,
      (dtDevicePopulate isCoherent uninit fdt dtIo fdtNode parent parentFlags).device =
        (dtDeviceCreateDmaInit isCoherent uninit fdt
          (dtDeviceCells fdt dtIo fdtNode parent parentFlags)).2.setInfo fun i =>
            if critical then { i with flags := i.flags ||| DT_DEVICE_CRITICAL } else i :=
  ⟨_, rfl⟩

theorem dmaNarrowed_populate (dtIo : DtIoRef) (fdtNode : Int) (parent : Option DtDevice)
    (parentFlags : Uintn)
    (hflags : parentFlags &&& DT_DEVICE_NON_IDENTITY_DMA ≠ 0 ↔
      ∃ p, parent = some p ∧ ∃ t ∈ dmaTripletsUp tree.fdt p, ¬ t.IsIdentity)
    (hlimit : ∀ p, parent = some p → DmaNarrowed tree.fdt p) :
    DmaNarrowed tree.fdt
      (dtDevicePopulate isCoherent uninit tree.fdt dtIo fdtNode parent parentFlags).device := by
  have hinit := dtDeviceCreateDmaInit_initialised isCoherent uninit tree
    (dtDeviceCells tree.fdt dtIo fdtNode parent parentFlags)
  have hnarrowed : DmaNarrowed tree.fdt (dtDeviceCreateDmaInit isCoherent uninit tree.fdt
      (dtDeviceCells tree.fdt dtIo fdtNode parent parentFlags)).2 := by
    cases parent with
    | none =>
        refine dmaNarrowed_of_initialised tree _ _ [] (List.append_nil _).symm ?_ (fun _ => rfl)
          hinit
        have hzero : parentFlags &&& DT_DEVICE_NON_IDENTITY_DMA = 0 := by
          by_contra hset
          obtain ⟨p, hp, -⟩ := hflags.mp hset
          simp at hp
        refine iff_of_false (fun hset => hset ?_) (by simp)
        exact (flagged_inherited parentFlags).trans hzero
    | some p =>
        refine dmaNarrowed_of_initialised tree
          (dtDeviceCells tree.fdt dtIo fdtNode (some p) parentFlags) _ (dmaTripletsUp tree.fdt p)
          rfl ?_ (hlimit p rfl).limit hinit
        have hset : (dtDeviceCells tree.fdt dtIo fdtNode (some p) parentFlags).info.flags &&&
            DT_DEVICE_NON_IDENTITY_DMA = parentFlags &&& DT_DEVICE_NON_IDENTITY_DMA :=
          flagged_inherited parentFlags
        rw [hset, hflags]
        simp
  obtain ⟨critical, hdevice⟩ := device_dtDevicePopulate isCoherent uninit tree.fdt dtIo fdtNode
    parent parentFlags
  rw [hdevice]
  refine dmaNarrowed_setInfo tree.fdt _ _ hnarrowed (DtDevice.parent?_setInfo _ _) ?_ ?_ ?_ <;>
    rw [DtDevice.info_setInfo] <;> cases critical
  · exact sameNode_refl _
  · exact ⟨rfl, rfl, rfl, rfl⟩
  · rfl
  · exact flagged_critical _
  · rfl
  · rfl

/-- By induction down the tree. -/
theorem dmaNarrowed_of_created (c : CreatedDevice) (h : CreatedFrom isCoherent uninit tree c) :
    DmaNarrowed tree.fdt c.device := by
  induction h with
  | root dtIo fdtNode =>
      exact dmaNarrowed_populate isCoherent uninit tree dtIo fdtNode none 0
        (iff_of_false (by simp) (by simp)) (by simp)
  | @child c _ handle callbacks dtIo fdtNode ih =>
      have hparent : DmaNarrowed tree.fdt (c.device.registered handle callbacks) := by
        refine dmaNarrowed_setInfo tree.fdt _ _ ih (DtDevice.parent?_setInfo _ _) ?_ ?_ ?_ <;>
          rw [DtDevice.registered, DtDevice.info_setInfo]
        exact ⟨rfl, rfl, rfl, rfl⟩
      refine dmaNarrowed_populate isCoherent uninit tree dtIo fdtNode _ _ ?_ ?_
      · have hflags := hparent.flagged
        rw [DtDevice.registered, DtDevice.info_setInfo] at hflags
        rw [hflags]
        simp [DtDevice.registered]
      · rintro p hp
        rw [← Option.some.inj hp]
        exact hparent

def dmaLimit (fdt : Fdt) (d : DtDevice) : Nat :=
  leastAddress ((dmaTripletsUp fdt d).map RangeTriplet.last)

/-- Map and AllocateBuffer refuse every valid request as unsupported. -/
def DmaUnsupported (d : DtDevice) : Prop :=
  ∀ (bs : BootServices) (s : DmaState),
    (∀ (operation : DmaOperation) (hostAddress : U64) (extra : Option DmaExtra)
        (numberOfBytes : Uintn), operation ≠ .maximum → hostAddress ≠ 0 →
      dtIoMap bs (some d) operation hostAddress extra (some numberOfBytes) true s =
        (.error .unsupported, s)) ∧
    ∀ (memoryType : EfiMemoryType) (pages : Uintn) (extra : Option DmaExtra), pages ≠ 0 →
      dtIoAllocateBuffer bs (some d) memoryType pages extra true s = (.error .unsupported, s)

/-- The limit is exact where it means something, and elsewhere DMA is refused. -/
def DmaLimitExact (fdt : Fdt) (d : DtDevice) : Prop :=
  ((∀ t ∈ dmaTripletsUp fdt d, t.IsIdentity) →
      d.info.maxCpuDmaAddress.toNat = dmaLimit fdt d) ∧
    ((∃ t ∈ dmaTripletsUp fdt d, ¬ t.IsIdentity) → DmaUnsupported d)

/-- No last address falls below the limit when it loses its bits beyond the 64th. -/
def NarrowsHarmlessly (fdt : Fdt) (d : DtDevice) : Prop :=
  (∀ t ∈ dmaTripletsUp fdt d, t.IsIdentity) →
    ∀ t ∈ dmaTripletsUp fdt d, dmaLimit fdt d ≤ t.last % 2 ^ 64

theorem dmaUnsupported_of_flagged (d : DtDevice)
    (h : d.info.flags &&& DT_DEVICE_NON_IDENTITY_DMA ≠ 0) : DmaUnsupported d := by
  intro bs s
  refine ⟨fun operation hostAddress extra numberOfBytes hoperation haddress => ?_,
    fun memoryType pages extra hpages => ?_⟩
  · have hvalid : ¬ (operation = .maximum || hostAddress = 0 || !true) = true := by
      simpa [hoperation] using haddress
    simp only [dtIoMap]
    rw [if_neg hvalid, if_pos h]
  · have hvalid : ¬ (pages = 0 || !true) = true := by simpa using hpages
    simp only [dtIoAllocateBuffer]
    rw [if_neg hvalid, if_pos h]

theorem leastAddress_mod_eq_iff (addresses : List Nat) :
    leastAddress (addresses.map (· % 2 ^ 64)) = leastAddress addresses ↔
      ∀ a ∈ addresses, leastAddress addresses ≤ a % 2 ^ 64 := by
  constructor
  · intro heq a ha
    have hle := (le_leastAddress (addresses.map (· % 2 ^ 64)) _ (leastAddress_le addresses)).mp
      (Nat.le_of_eq heq.symm)
    exact hle _ (List.mem_map_of_mem ha)
  · intro h
    apply Nat.le_antisymm
    · refine (le_leastAddress addresses _ (leastAddress_le _)).mpr (fun a ha => ?_)
      have hle := (le_leastAddress (addresses.map (· % 2 ^ 64)) _ (leastAddress_le _)).mp
        (Nat.le_refl _)
      exact Nat.le_trans (hle _ (List.mem_map_of_mem ha)) (Nat.mod_le _ _)
    · refine (le_leastAddress _ _ (leastAddress_le _)).mpr (fun b hb => ?_)
      obtain ⟨a, ha, rfl⟩ := List.mem_map.mp hb
      exact h a ha

/-- A devicetree and a device created from it. -/
structure DeviceOf (tree : Devicetree) where
  isCoherent : Bool
  uninit : DtProperty
  created : CreatedDevice
  created_from : CreatedFrom isCoherent uninit tree created

/-- The limit of every device is exact if and only if narrowing loses nothing below it. -/
theorem dmaLimitExact_iff (tree : Devicetree) (d : DeviceOf tree) :
    DmaLimitExact tree.fdt d.created.device ↔ NarrowsHarmlessly tree.fdt d.created.device := by
  have h := dmaNarrowed_of_created d.isCoherent d.uninit tree d.created d.created_from
  have hrefused (hnot : ∃ t ∈ dmaTripletsUp tree.fdt d.created.device, ¬ t.IsIdentity) :
      DmaUnsupported d.created.device :=
    dmaUnsupported_of_flagged _ (h.flagged.mpr hnot)
  rw [DmaLimitExact, and_iff_left hrefused, NarrowsHarmlessly]
  apply forall_congr'
  intro hid
  have hmod : ((dmaTripletsUp tree.fdt d.created.device).map fun t => t.last % 2 ^ 64) =
      ((dmaTripletsUp tree.fdt d.created.device).map RangeTriplet.last).map (· % 2 ^ 64) := by
    rw [List.map_map]
    rfl
  rw [h.limit hid, hmod, dmaLimit, leastAddress_mod_eq_iff]
  simp

end Created

/-- A root with 96-bit addresses and a bus with one identity entry of 4 KB at `2 ^ 64`. -/
def wideTree : Devicetree where
  fdt := {
    mem := fun a =>
      if a = 0x103 then 3
      else if a = 0x203 then 1
      else if a = 0x20F then 1
      else if a = 0x21A then 0x10
      else 0
    getprop := fun fdtNode name =>
      if name = "#address-cells" then .ok (0x100, 4)
      else if fdtNode = 1 ∧ name = "dma-ranges" then .ok (0x200, 28)
      else .error .notFound }
  readable fdtNode name := by
    dsimp only
    split
    · simp
    · split <;> simp

def noProperty : DtProperty := ⟨0, 0, 0, Nat.le_refl 0, Nat.le_refl 0⟩

def wideRoot : CreatedDevice := dtDevicePopulate true noProperty wideTree.fdt 1 0 none 0

def wideBus : DeviceOf wideTree where
  isCoherent := true
  uninit := noProperty
  created := dtDevicePopulate true noProperty wideTree.fdt 2 1
    (some (wideRoot.device.registered 1 none)) wideRoot.device.info.flags
  created_from := .child (.root 1 0) 1 none 2 1

/-- The bus is not broken, and its limit is `0xFFF`, the low bits of the entry's end. -/
theorem wideBus_limit : wideBus.created.deviceStatus ≠ .broken ∧
    ¬ DmaLimitExact wideTree.fdt wideBus.created.device := by
  refine ⟨by decide, fun h => ?_⟩
  exact absurd (h.1 (by decide)) (by decide)

end FdtBusPkg
