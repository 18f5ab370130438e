import FdtBusPkg.DtBus.DmaReach
import FdtBusPkg.Library.Access

/-!
A transfer through the mapping interface, from Map over the accesses of the
device to Unmap, against the same accesses on the host buffer. The bounce buffer
of a write to memory starts out zeroed and is copied back whole.
-/
namespace FdtBusPkg

/-- A transfer between a device and a buffer in use, with the accesses its
direction allows. -/
structure DmaTransfer (s : DmaState) extends DmaRequest where
  operation : DmaOperation
  accesses : List (Access U8)
  end_le : hostAddress.toNat + numberOfBytes.toNat ≤ 2 ^ 64
  used : ∀ x, hostAddress.toNat ≤ x → x < hostAddress.toNat + numberOfBytes.toNat →
    s.pageUsed (x / 4096) = true
  within : ∀ a ∈ accesses, a.index < numberOfBytes.toNat
  allowed : (operation = .busMasterRead ∧ ∀ a ∈ accesses, a.IsRead) ∨
    (operation = .busMasterWrite ∧ ∀ a ∈ accesses, ¬ a.IsRead)

section Bounce

variable (bs : BootServices) (device : DtDevice) (extra : Option DmaExtra) {s : DmaState}
  (t : DmaTransfer s)

/-- The accesses made on the host buffer itself: the memory they leave, and what
the device reads. -/
def directRun : (Nat → U8) × List U8 := Access.run t.hostAddress.toNat t.accesses s.memory

/-- Once mapped, the transfer completes, the device reads what it would read from
the host buffer, and memory in use ends up as if the device had worked on the host
buffer; outside the buffer it is unchanged. -/
def Transparent : Prop :=
  ∀ address mapping mapped,
    dtIoMap bs (some device) t.operation t.hostAddress extra (some t.numberOfBytes) true s =
        (.ok (address, mapping), mapped) →
      let (memory, observed) := Access.run address.toNat t.accesses mapped.memory
      let (status, unmapped) := dtIoUnmap (some device) mapping { mapped with memory }
      status = .ok () ∧ observed = (directRun t).2 ∧
        ∀ x, s.pageUsed (x / 4096) = true →
          unmapped.memory x = (directRun t).1 x ∧
            (x < t.hostAddress.toNat ∨ t.hostAddress.toNat + t.numberOfBytes.toNat ≤ x →
              unmapped.memory x = s.memory x)

/-- The request is served, its end is above the limit, and the bounce buffer is
allocated. -/
def Bounces : Prop :=
  DmaServed device extra t.operation t.hostAddress true ∧
    ∃ limit, dmaConstraints device extra = .ok (limit, true) ∧
      t.hostAddress + t.numberOfBytes - 1 > limit ∧
      (bs.allocatePool s).isSome = true ∧
      ∃ base, bs.allocatePages s EfiBootServicesData limit
        (efiSizeToPages t.numberOfBytes) = .ok base

/-- Every byte of the buffer is written by the device or zero beforehand. -/
def WrittenOrZero : Prop :=
  ∀ i < t.numberOfBytes.toNat,
    Access.Written t.accesses i ∨ s.memory (t.hostAddress.toNat + i) = 0

theorem apart_of_used (limit : U64) (pages : Uintn) (base : U64) (x : Nat)
    (hpages : bs.allocatePages s EfiBootServicesData limit pages = .ok base)
    (hx : s.pageUsed (x / 4096) = true) :
    x < base.toNat ∨ base.toNat + 4096 * pages.toNat ≤ x := by
  by_contra hin
  have haligned := bs.pages_aligned s _ _ _ base hpages
  have hfree := bs.pages_free s _ _ _ base hpages (x / 4096 - base.toNat / 4096) (by omega)
  have hpage : base.toNat / 4096 + (x / 4096 - base.toNat / 4096) = x / 4096 := by omega
  rw [hpage, hx] at hfree
  simp at hfree

theorem toNat_bounceSize (limit : U64) (base : U64)
    (hpages : bs.allocatePages s EfiBootServicesData limit (efiSizeToPages t.numberOfBytes) =
      .ok base) :
    (efiPagesToSize (efiSizeToPages t.numberOfBytes)).toNat =
      4096 * (efiSizeToPages t.numberOfBytes).toNat := by
  have hbelow := bs.pages_below s _ _ _ base hpages
  have hlimit := limit.isLt
  have hend := t.end_le
  rw [efiPagesToSize, BitVec.toNat_shiftLeft, Nat.shiftLeft_eq]
  by_cases hempty : t.numberOfBytes.toNat = 0
  · rw [BitVec.eq_of_toNat_eq (y := 0) hempty]
    rfl
  · have hapart := apart_of_used bs limit _ base t.hostAddress.toNat hpages
      (t.used _ (Nat.le_refl _) (by omega))
    omega

/-- The state after Map, through a bounce buffer at `base`. -/
structure Bounced (base : U64) (info : MapInfo) (mapped : DmaState) : Prop where
  covers : ∃ size, t.numberOfBytes.toNat ≤ size ∧
    (∀ x, s.pageUsed (x / 4096) = true → x < base.toNat ∨ base.toNat + size ≤ x) ∧
    ∀ x, x < base.toNat ∨ base.toNat + size ≤ x → mapped.memory x = s.memory x
  contents : ∀ i < t.numberOfBytes.toNat, mapped.memory (base.toNat + i) =
    if t.operation = .busMasterRead then s.memory (t.hostAddress.toNat + i) else 0#8
  listed : mapped.maps = s.maps ++ [info]
  fresh : ∀ m ∈ s.maps, m.self ≠ info.self
  self_ne : info.self ≠ 0 ∧ info.self ≠ NO_MAPPING
  operation_eq : info.operation = t.operation
  host_eq : info.hostAddress = t.hostAddress
  mapped_eq : info.mappedHostAddress = base
  bytes_eq : info.numberOfBytes = t.numberOfBytes

theorem bounced_of_mapBounce (limit : U64) (address : DtBusAddress) (mapping : DmaMapping)
    (mapped : DmaState)
    (h : dtIoMapBounce bs t.operation t.hostAddress limit t.numberOfBytes s =
      (.ok (address, mapping), mapped)) :
    ∃ base info, address = base.setWidth 128 ∧ info.self = mapping ∧
      Bounced t base info mapped := by
  rw [dtIoMapBounce] at h
  cases hpool : bs.allocatePool s with
  | none => simp [hpool] at h
  | some self =>
      rw [hpool] at h
      dsimp only at h
      cases hpages : bs.allocatePages s EfiBootServicesData limit
          (efiSizeToPages t.numberOfBytes) with
      | error e => simp [hpages] at h
      | ok base =>
          simp only [hpages, Prod.mk.injEq, Except.ok.injEq] at h
          obtain ⟨⟨rfl, rfl⟩, rfl⟩ := h
          have hsize := toNat_bounceSize bs t limit base hpages
          have hcover := le_efiSizeToPages t.numberOfBytes
          have hapart (x : Nat) (hx : s.pageUsed (x / 4096) = true) :=
            apart_of_used bs limit _ base x hpages hx
          have hhost (i : Nat) (hi : i < t.numberOfBytes.toNat) :=
            hapart (t.hostAddress.toNat + i) (t.used _ (by omega) (by omega))
          let info : MapInfo := ⟨self, t.operation, t.numberOfBytes,
            efiSizeToPages t.numberOfBytes, t.hostAddress, base⟩
          refine ⟨base, info, rfl, rfl, ?_⟩
          exact {
            covers := by
              refine ⟨_, hcover, hapart, fun x hx => ?_⟩
              dsimp only
              split
              · rw [DmaState.memory_copyMem, DmaState.memory_zeroMem,
                  Segment.overlay_outside _ _ _ _ _ (by omega),
                  Segment.overlay_outside _ _ _ _ _ (by omega), DmaState.memory_takePages]
              · rw [DmaState.memory_zeroMem, Segment.overlay_outside _ _ _ _ _ (by omega),
                  DmaState.memory_takePages]
            contents := by
              intro i hi
              have hfar := hhost i hi
              dsimp only
              split
              · rw [DmaState.memory_copyMem, Segment.overlay_offset _ _ _ _ _ hi,
                  DmaState.memory_zeroMem, Segment.overlay_outside _ _ _ _ _ (by omega),
                  DmaState.memory_takePages]
              · rw [DmaState.memory_zeroMem, Segment.overlay_offset _ _ _ _ _ (by omega)]
            listed := by
              dsimp only
              split <;> rfl
            fresh := bs.pool_fresh s self hpool
            self_ne := bs.pool_ne_noMapping s self hpool
            operation_eq := rfl
            host_eq := rfl
            mapped_eq := rfl
            bytes_eq := rfl }

theorem unmap_bounced (base : U64) (info : MapInfo) (mapped : DmaState) (memory : Nat → U8)
    (h : Bounced t base info mapped) :
    (dtIoUnmap (some device) info.self { mapped with memory }).1 = .ok () ∧
      (dtIoUnmap (some device) info.self { mapped with memory }).2.memory =
        if t.operation = .busMasterWrite then
          Segment.overlay memory t.hostAddress.toNat t.numberOfBytes.toNat
            (fun i => memory (base.toNat + i))
        else
          memory := by
  have hfind : mapped.maps.find? (·.self = info.self) = some info := by
    have hnone : s.maps.find? (fun m => decide (m.self = info.self)) = none := by
      simpa using h.fresh
    rw [h.listed, List.find?_append, hnone]
    simp
  rw [dtIoUnmap, if_neg (by simp [h.self_ne.1]), if_neg h.self_ne.2, hfind]
  dsimp only
  rw [h.operation_eq, h.host_eq, h.mapped_eq, h.bytes_eq]
  split
  · exact ⟨rfl, rfl⟩
  · exact ⟨rfl, rfl⟩

theorem directRun_outside (x : Nat)
    (hx : x < t.hostAddress.toNat ∨ t.hostAddress.toNat + t.numberOfBytes.toNat ≤ x) :
    (directRun t).1 x = s.memory x :=
  Access.run_outside _ _ _ _ x t.within hx

theorem bounced_read (base : U64) (info : MapInfo) (mapped : DmaState)
    (h : Bounced t base info mapped) (hop : t.operation = .busMasterRead)
    (hreads : ∀ a ∈ t.accesses, a.IsRead) :
    (Access.run base.toNat t.accesses mapped.memory).2 = (directRun t).2 ∧
      ∀ x, s.pageUsed (x / 4096) = true →
        (Access.run base.toNat t.accesses mapped.memory).1 x = (directRun t).1 x := by
  constructor
  · apply Access.observed_relocate _ _ _ _ _ _ t.within
    intro i hi
    rw [h.contents i hi, if_pos hop]
  · intro x hx
    obtain ⟨size, -, hapart, hkept⟩ := h.covers
    rw [Access.run_reads _ _ _ hreads, directRun, Access.run_reads _ _ _ hreads]
    exact hkept x (hapart x hx)

/-- Writes through a bounce buffer: outside the buffer nothing changes, a written
byte is the one written directly, and any other byte becomes zero. -/
theorem bounced_write (base : U64) (info : MapInfo) (mapped : DmaState)
    (h : Bounced t base info mapped) (hop : t.operation = .busMasterWrite) :
    let memory := (Access.run base.toNat t.accesses mapped.memory).1
    let copied := Segment.overlay memory t.hostAddress.toNat t.numberOfBytes.toNat
      (fun i => memory (base.toNat + i))
    (∀ x, s.pageUsed (x / 4096) = true →
        x < t.hostAddress.toNat ∨ t.hostAddress.toNat + t.numberOfBytes.toNat ≤ x →
        copied x = s.memory x) ∧
      ∀ i < t.numberOfBytes.toNat,
        (Access.Written t.accesses i →
          copied (t.hostAddress.toNat + i) = (directRun t).1 (t.hostAddress.toNat + i)) ∧
        (¬ Access.Written t.accesses i → copied (t.hostAddress.toNat + i) = 0 ∧
          (directRun t).1 (t.hostAddress.toNat + i) = s.memory (t.hostAddress.toNat + i)) := by
  dsimp only
  obtain ⟨size, hcover, hapart, hkept⟩ := h.covers
  constructor
  · intro x hx hout
    have hfar := hapart x hx
    rw [Segment.overlay_outside _ _ _ _ x hout,
      Access.run_outside _ _ _ _ x t.within (by omega)]
    exact hkept x hfar
  · intro i hi
    rw [Segment.overlay_offset _ _ _ _ i hi]
    refine ⟨fun hwritten => Access.run_written _ _ _ _ _ i hwritten, fun hkept => ⟨?_, ?_⟩⟩
    · have hread : ¬ t.operation = .busMasterRead := by simp [hop]
      rw [Access.run_not_written _ _ _ i hkept, h.contents i hi, if_neg hread]
      rfl
    · exact Access.run_not_written _ _ _ i hkept

theorem mapBounce_ok_iff (limit : U64) :
    (∃ result mapped, dtIoMapBounce bs t.operation t.hostAddress limit t.numberOfBytes s =
        (.ok result, mapped)) ↔
      (bs.allocatePool s).isSome = true ∧
        ∃ base, bs.allocatePages s EfiBootServicesData limit
          (efiSizeToPages t.numberOfBytes) = .ok base := by
  rw [dtIoMapBounce]
  cases hpool : bs.allocatePool s with
  | none => simp
  | some self =>
      cases hpages : bs.allocatePages s EfiBootServicesData limit
          (efiSizeToPages t.numberOfBytes) with
      | error e => simp [hpages]
      | ok base =>
          dsimp only
          rw [hpages]
          exact iff_of_true ⟨_, _, rfl⟩ ⟨rfl, base, rfl⟩

theorem bounced_transparent_iff (address : DtBusAddress) (mapping : DmaMapping)
    (mapped : DmaState) (limit : U64)
    (h : dtIoMapBounce bs t.operation t.hostAddress limit t.numberOfBytes s =
      (.ok (address, mapping), mapped)) :
    (let (memory, observed) := Access.run address.toNat t.accesses mapped.memory
      let (status, unmapped) := dtIoUnmap (some device) mapping { mapped with memory }
      status = .ok () ∧ observed = (directRun t).2 ∧
        ∀ x, s.pageUsed (x / 4096) = true →
          unmapped.memory x = (directRun t).1 x ∧
            (x < t.hostAddress.toNat ∨ t.hostAddress.toNat + t.numberOfBytes.toNat ≤ x →
              unmapped.memory x = s.memory x)) ↔
      (t.operation = .busMasterWrite → WrittenOrZero t) := by
  obtain ⟨base, info, rfl, rfl, hbounced⟩ := bounced_of_mapBounce bs t limit address mapping
    mapped h
  obtain ⟨hstatus, hmemory⟩ := unmap_bounced device t base info mapped
    (Access.run base.toNat t.accesses mapped.memory).1 hbounced
  dsimp only
  rw [toNat_deviceAddress, hstatus, hmemory]
  rcases t.allowed with ⟨hop, hreads⟩ | ⟨hop, hwrites⟩
  · have hnot : ¬ t.operation = .busMasterWrite := by simp [hop]
    obtain ⟨hobserved, hsame⟩ := bounced_read t base info mapped hbounced hop hreads
    refine iff_of_true ⟨rfl, hobserved, fun x hx => ?_⟩ (fun hwrite => absurd hwrite hnot)
    rw [if_neg hnot, hsame x hx]
    exact ⟨rfl, directRun_outside t x⟩
  · obtain ⟨houtside, hinside⟩ := bounced_write t base info mapped hbounced hop
    have hobserved : (Access.run base.toNat t.accesses mapped.memory).2 = (directRun t).2 := by
      rw [Access.observed_of_writes _ _ _ hwrites, directRun,
        Access.observed_of_writes _ _ _ hwrites]
    simp only [hop, if_true, true_imp_iff]
    constructor
    · rintro ⟨-, -, hsame⟩ i hi
      by_cases hwritten : Access.Written t.accesses i
      · exact Or.inl hwritten
      · obtain ⟨hzero, hkept⟩ := (hinside i hi).2 hwritten
        have hcell := (hsame (t.hostAddress.toNat + i) (t.used _ (by omega) (by omega))).1
        rw [hzero, hkept] at hcell
        exact Or.inr hcell.symm
    · intro hcovered
      refine ⟨trivial, hobserved, fun x hx => ?_⟩
      by_cases hin : t.hostAddress.toNat ≤ x ∧
          x < t.hostAddress.toNat + t.numberOfBytes.toNat
      · obtain ⟨i, rfl⟩ := Nat.exists_eq_add_of_le hin.1
        have hi : i < t.numberOfBytes.toNat := by omega
        refine ⟨?_, fun hout => by omega⟩
        by_cases hwritten : Access.Written t.accesses i
        · exact (hinside i hi).1 hwritten
        · obtain ⟨hzero, hkept⟩ := (hinside i hi).2 hwritten
          rw [hzero, hkept]
          exact ((hcovered i hi).resolve_left hwritten).symm
      · have hout : x < t.hostAddress.toNat ∨
            t.hostAddress.toNat + t.numberOfBytes.toNat ≤ x := by omega
        have hkept := houtside x hx hout
        exact ⟨hkept.trans (directRun_outside t x hout).symm, fun _ => hkept⟩

end Bounce

/-- A transfer is transparent if and only if it is not a bounced write that leaves
a nonzero byte of the buffer unwritten. -/
theorem dmaTransfer_transparent_iff (bs : BootServices) (device : DtDevice)
    (extra : Option DmaExtra) (s : DmaState) (t : DmaTransfer s) :
    Transparent bs device extra t ↔
      (Bounces bs device extra t → t.operation = .busMasterWrite → WrittenOrZero t) := by
  by_cases hserved : DmaServed device extra t.operation t.hostAddress true
  · obtain ⟨limit, hlimit, hmap⟩ :=
      dtIoMap_served bs device extra t.operation t.toDmaRequest s true hserved
    have hcommon : ¬ t.operation = .busMasterCommonBuffer := by
      rcases t.allowed with ⟨hop, -⟩ | ⟨hop, -⟩ <;> simp [hop]
    rw [if_neg hcommon] at hmap
    rw [Transparent, hmap]
    by_cases hend : t.hostAddress + t.numberOfBytes - 1 > limit
    · have hbounces : Bounces bs device extra t ↔
          ∃ result mapped, dtIoMapBounce bs t.operation t.hostAddress limit t.numberOfBytes s =
            (.ok result, mapped) := by
        rw [mapBounce_ok_iff bs t limit, Bounces, hlimit]
        refine ⟨?_, fun hpool => ⟨hserved, limit, rfl, hend, hpool⟩⟩
        rintro ⟨-, limit', hsame, -, hpool⟩
        rw [Except.ok.injEq, Prod.mk.injEq] at hsame
        rwa [← hsame.1] at hpool
      simp only [if_pos hend]
      constructor
      · rintro h hbounce
        obtain ⟨⟨address, mapping⟩, mapped, hrun⟩ := hbounces.mp hbounce
        exact (bounced_transparent_iff bs device t address mapping mapped limit hrun).mp
          (h address mapping mapped hrun)
      · intro h address mapping mapped hrun
        exact (bounced_transparent_iff bs device t address mapping mapped limit hrun).mpr
          (h (hbounces.mpr ⟨_, _, hrun⟩))
    · simp only [if_neg hend, Prod.mk.injEq, Except.ok.injEq]
      refine iff_of_true ?_ ?_
      · rintro address mapping mapped ⟨⟨rfl, rfl⟩, rfl⟩
        rw [toNat_deviceAddress]
        refine ⟨rfl, rfl, fun x _ => ⟨rfl, directRun_outside t x⟩⟩
      · rintro ⟨-, limit', hlimit', hend', -⟩
        rw [hlimit, Except.ok.injEq, Prod.mk.injEq] at hlimit'
        rw [← hlimit'.1] at hend'
        exact absurd hend' hend
  · obtain ⟨e, hmap⟩ :=
      dtIoMap_refused bs device extra t.operation t.toDmaRequest s true hserved
    refine iff_of_true (fun address mapping mapped hrun => ?_) (fun h => absurd h.1 hserved)
    rw [hmap] at hrun
    simp at hrun

def device32K : DtDevice := .root ⟨1, 1, 0, 2, 1, 1, 4, true, 0, none, 0x7FFF⟩

/-- The byte at `0xF000` is in use and holds `0xAA`. -/
def bufferState : DmaState :=
  ⟨fun x => if x = 0xF000 then 0xAA else 0, fun p => p == 0 || p == 15, []⟩

/-- A write to memory that the device does not carry out. -/
def idleWrite : DmaTransfer bufferState where
  hostAddress := 0xF000
  numberOfBytes := 1
  operation := .busMasterWrite
  accesses := []
  end_le := by decide
  used x hlo hhi := by
    have hx : x = 0xF000 := by
      have hhost : (0xF000 : U64).toNat = 0xF000 := rfl
      have hone : (1 : U64).toNat = 1 := rfl
      omega
    subst hx
    rfl
  within := by simp
  allowed := Or.inr ⟨rfl, by simp⟩

/-- Bounced below the first 32 KB, the write clears the byte. -/
theorem idleWrite_clears_buffer :
    ¬ Transparent smallMachine device32K none idleWrite := by
  intro h
  have hbyte := ((h _ _ _ rfl).2.2 0xF000 rfl).1
  exact absurd hbyte (by decide)

end FdtBusPkg
