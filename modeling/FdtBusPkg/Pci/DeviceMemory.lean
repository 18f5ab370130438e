import FdtBusPkg.Library.Session
import FdtBusPkg.DtBus.CopyReg
import FdtBusPkg.Pci.Routing

/-!
A root bridge as two memories, addressed as its devices address them. Which window serves an
access depends on the whole of it, and a copy goes through two; when no two windows share host
bytes, none of this can be told from the answers.
-/
namespace FdtBusPkg

section CopyMem

variable (bridge : PciRootBridge)

/-- `RootBridgeIoCopyMem`. -/
def rootBridgeIoCopyMem {σ : Type} (world : RegWorld σ) (allocateZeroPool : Uintn → Bool)
    (width : DtIoWidth) (destAddress srcAddress : U64) (count : Uintn) (s : σ) : CopyRun σ :=
  match rootBridgeIoCheckParameter bridge .memOperationNoBuffer width srcAddress count false with
  | .error e => ⟨.error e, [], s⟩
  | .ok srcReg =>
    match rootBridgeIoCheckParameter bridge .memOperationNoBuffer width destAddress count
        false with
    | .error e => ⟨.error e, [], s⟩
    | .ok destReg =>
      dtIoCopyReg world allocateZeroPool (some bridge.dtIo) width (some destReg)
        (destAddress.setWidth 128) (some srcReg) (srcAddress.setWidth 128) count s

end CopyMem

/-- The contents of both spaces of a bridge, by device address. -/
abbrev DeviceMemory := PciSpace → Nat → U8

def DtRange.Holds (range : DtRange) (address : Nat) : Prop :=
  range.rb.toNat ≤ address ∧ address < range.rb.toNat + range.length.toNat

/-- Where a device address of a window is on the host. -/
def hostByte (range : DtRange) (address : Nat) : RegByte :=
  windowByte (fbpRangeToReg range (range.rb.setWidth 128)) address

/-- A copy of at least one element of a valid width. -/
structure SpaceCopy where
  width : DtIoWidth
  destAddress : U64
  srcAddress : U64
  count : Uintn
  width_ne : width ≠ .maximum
  count_ne : count ≠ 0

namespace SpaceCopy

variable (c : SpaceCopy)

def source : SpaceRequest where
  space := .mem
  read := true
  width := c.width
  address := c.srcAddress
  count := c.count
  width_ne := c.width_ne
  count_ne := c.count_ne

def dest : SpaceRequest where
  space := .mem
  read := false
  width := c.width
  address := c.destAddress
  count := c.count
  width_ne := c.width_ne
  count_ne := c.count_ne

end SpaceCopy

/-- A call of the accessors with its buffer, or of `CopyMem` with what the pool provides. -/
inductive MemoryCall
  | access (request : SpaceRequest) (buffer : Nat → U8)
  | copyMem (copy : SpaceCopy) (allocateZeroPool : Uintn → Bool)

def MemoryCall.width : MemoryCall → DtIoWidth
  | access request _ => request.width
  | copyMem copy _ => copy.width

namespace RoutedBridge

variable (b : RoutedBridge)

/-- A host byte has one device address in one space. -/
def Separate : Prop :=
  ∀ space, ∀ range ∈ b.bridge.windows space, ∀ address, range.Holds address →
    ∀ space', ∀ range' ∈ b.bridge.windows space', ∀ address', range'.Holds address' →
      (hostByte range address = hostByte range' address' ↔ space = space' ∧ address = address')

def Elsewhere (byte : RegByte) : Prop :=
  ∀ space, ∀ range ∈ b.bridge.windows space, ∀ address, range.Holds address →
    hostByte range address ≠ byte

/-- One call on windows that are memory: the status, and the buffer afterwards. -/
def memoryCall : MemoryCall → (RegByte → U8) → (EfiStatus × (Nat → U8)) × (RegByte → U8)
  | .access request buffer, m =>
    match spaceAccess b.bridge request with
    | .error e => ((.error e, buffer), m)
    | .ok a =>
      if request.read then
        let (status, buffer, m) := RegMemory.answering.read a buffer m
        ((status, buffer), m)
      else
        let (status, m) := RegMemory.answering.write a buffer m
        ((status, buffer), m)
  | .copyMem copy allocateZeroPool, m =>
    let run := rootBridgeIoCopyMem b.bridge RegMemory.answering.toRegWorld allocateZeroPool
      copy.width copy.destAddress copy.srcAddress copy.count m
    ((run.status, zeroBuffer), run.world)

end RoutedBridge

/-! The same calls, on device addresses. -/

namespace DeviceMemory

def read (d : DeviceMemory) (space : PciSpace) (address extent : Nat) (buffer : Nat → U8) :
    Nat → U8 :=
  fun k => if k < extent then d space (address + k) else buffer k

def write (d : DeviceMemory) (space : PciSpace) (address extent : Nat) (buffer : Nat → U8) :
    DeviceMemory :=
  fun space' address' =>
    if space' = space ∧ address ≤ address' ∧ address' < address + extent then
      buffer (address' - address)
    else
      d space' address'

end DeviceMemory

instance (b : RoutedBridge) (q : SpaceRequest) : Decidable (BelowTop b q) :=
  inferInstanceAs (Decidable (∃ range ∈ _, _ ∧ _))

def refusal (b : RoutedBridge) (q : SpaceRequest) : Option EfiError :=
  if 2 ^ 64 ≤ q.extent then some .invalidParameter
  else if q.Aligned then
    if BelowTop b q then none else some .invalidParameter
  else some .unsupported

section Spec

variable (b : RoutedBridge)

def deviceCall : MemoryCall → DeviceMemory → (EfiStatus × (Nat → U8)) × DeviceMemory
  | .access request buffer, d =>
    match refusal b request with
    | some e => ((.error e, buffer), d)
    | none =>
      if request.read then
        ((.ok (), d.read request.space request.address.toNat request.extent buffer), d)
      else
        ((.ok (), buffer), d.write request.space request.address.toNat request.extent buffer)
  | .copyMem copy allocateZeroPool, d =>
    match refusal b copy.source with
    | some e => ((.error e, zeroBuffer), d)
    | none =>
      match refusal b copy.dest with
      | some e => ((.error e, zeroBuffer), d)
      | none =>
        if allocateZeroPool (copyBufferSize copy.width copy.count) then
          let source := d.read .mem copy.srcAddress.toNat copy.source.extent zeroBuffer
          ((.ok (), zeroBuffer), d.write .mem copy.destAddress.toNat copy.dest.extent source)
        else
          ((.error .outOfResources, zeroBuffer), d)

end Spec

section Check

variable (bridge : PciRootBridge) (q : SpaceRequest)

theorem checkParameter_noBuffer (width : DtIoWidth) (address : U64) (count : Uintn) :
    rootBridgeIoCheckParameter bridge .memOperationNoBuffer width address count false =
      rootBridgeIoCheckParameter bridge .memOperation width address count true := by
  simp [rootBridgeIoCheckParameter, accessWindow]

theorem checkParameter_of_long (operation : OperationType) (h : 2 ^ 64 ≤ q.extent) :
    rootBridgeIoCheckParameter bridge operation q.width q.address q.count true =
      .error .invalidParameter := by
  have hextent : regExtent q.width q.count = q.extent := rfl
  simp only [rootBridgeIoCheckParameter, if_neg (index_lt_maximum q.width q.width_ne),
    Bool.not_true, Bool.and_false, Bool.false_eq_true, if_false, countTooLarge_iff, hextent,
    if_pos h]

theorem checkParameter_of_misaligned (operation : OperationType) (hfits : ¬ 2 ^ 64 ≤ q.extent)
    (h : ¬ q.Aligned) :
    rootBridgeIoCheckParameter bridge operation q.width q.address q.count true =
      .error .unsupported := by
  have hextent : regExtent q.width q.count = q.extent := rfl
  have haddress := not_imp_comm.mp (address_aligned_iff q.width q.address).mp h
  simp only [rootBridgeIoCheckParameter, if_neg (index_lt_maximum q.width q.width_ne),
    Bool.not_true, Bool.and_false, Bool.false_eq_true, if_false, countTooLarge_iff, hextent,
    if_neg hfits, if_pos haddress]

theorem checkParameter_of_top (operation : OperationType) (hfits : ¬ 2 ^ 64 ≤ q.extent)
    (haligned : q.Aligned) (h : 2 ^ 64 ≤ q.address.toNat + q.extent) :
    rootBridgeIoCheckParameter bridge operation q.width q.address q.count true =
      .error .invalidParameter := by
  have hextent : regExtent q.width q.count = q.extent := rfl
  have haddress := (address_aligned_iff q.width q.address).mpr haligned
  have htop := (endTooLarge_iff q.width q.address q.count (Nat.lt_of_not_le hfits)).mpr h
  rw [hextent] at htop
  simp only [rootBridgeIoCheckParameter, if_neg (index_lt_maximum q.width q.width_ne),
    Bool.not_true, Bool.and_false, Bool.false_eq_true, if_false, countTooLarge_iff, hextent,
    if_neg hfits, if_neg haddress, checkedLength_eq, if_pos htop]

end Check

section Refusal

variable (b : RoutedBridge) (q : SpaceRequest)

theorem checkParameter_refused {e : EfiError} (h : refusal b q = some e) :
    rootBridgeIoCheckParameter b.bridge q.operation q.width q.address q.count true =
      .error e := by
  rw [refusal] at h
  split_ifs at h with hlong haligned hbelow
  · cases h
    exact checkParameter_of_long b.bridge q _ hlong
  · cases h
    by_cases hend : q.address.toNat + q.extent < 2 ^ 64
    · have hcheck := checkParameter_space b.bridge q _ haligned hend rfl
      have hmem := selectedWindow_mem b.bridge q (BitVec.ofNat 64 q.extent)
      generalize selectedWindow b.bridge q (BitVec.ofNat 64 q.extent) = selected at *
      cases hin : inAperture q.address (BitVec.ofNat 64 q.extent) selected with
      | false =>
          rw [hin, if_neg Bool.false_ne_true] at hcheck
          exact hcheck
      | true =>
          have husable := windowUsable_of_mem b _ selected hmem
          exact absurd ⟨selected, hmem, (inAperture_iff q selected husable.1 hend).mp hin⟩ hbelow
    · exact checkParameter_of_top b.bridge q _ hlong haligned (Nat.le_of_not_lt hend)
  · cases h
    exact checkParameter_of_misaligned b.bridge q _ hlong haligned

theorem checkParameter_accepted (h : refusal b q = none) :
    ∃ range ∈ b.bridge.windows q.space, q.InRange range ∧
      q.address.toNat + q.extent < 2 ^ 64 ∧
      rootBridgeIoCheckParameter b.bridge q.operation q.width q.address q.count true =
        .ok (fbpRangeToReg range (range.rb.setWidth 128)) := by
  rw [refusal] at h
  split_ifs at h with hlong haligned hbelow
  obtain ⟨range, hmem, hin, htop⟩ := hbelow
  have hend : q.address.toNat + q.extent < 2 ^ 64 := Nat.lt_of_le_of_lt hin.2.2 htop
  have hselected := inAperture_selectedWindow b.bridge q _ range hmem
    ((inAperture_iff q range (windowUsable_of_mem b _ range hmem).1 hend).mpr ⟨hin, htop⟩)
  have hcheck := checkParameter_space b.bridge q _ haligned hend rfl
  have hmem' := selectedWindow_mem b.bridge q (BitVec.ofNat 64 q.extent)
  generalize selectedWindow b.bridge q (BitVec.ofNat 64 q.extent) = selected at *
  have husable := windowUsable_of_mem b _ selected hmem'
  rw [hselected, if_pos rfl] at hcheck
  exact ⟨selected, hmem', ((inAperture_iff q selected husable.1 hend).mp hselected).1, hend,
    hcheck⟩

theorem toNat_offset (address : U64) : (address.setWidth 128).toNat = address.toNat := by
  rw [BitVec.toNat_setWidth]
  exact Nat.mod_eq_of_lt (Nat.lt_trans address.isLt (by decide))

/-- An access of a window that contains it goes to the host bytes of its addresses. -/
theorem accessReg_of_inRange (childReg : DtIoCallbacks → Bool) {range : DtRange}
    (hmem : range ∈ b.bridge.windows q.space) (hin : q.InRange range)
    (hend : q.address.toNat + q.extent < 2 ^ 64) :
    ∃ a, dtIoAccessReg childReg (some b.bridge.dtIo) q.width
        (some (fbpRangeToReg range (range.rb.setWidth 128))) (q.address.setWidth 128) q.count
        true = .ok a ∧
      a.width = q.width ∧ a.count = q.count ∧
        targetByte a.target = fun k => hostByte range (q.address.toNat + k) := by
  have husable := windowUsable_of_mem b _ range hmem
  have hoffset : q.address.setWidth 128 = BitVec.ofNat 128 q.address.toNat :=
    BitVec.eq_of_toNat_eq (by rw [BitVec.toNat_setWidth, BitVec.toNat_ofNat])
  have hlength : q.address.toNat + regExtent q.width q.count ≤
      (fbpRangeToReg range (range.rb.setWidth 128)).length.toNat := by
    have hwithin : q.address.toNat + q.extent ≤ range.rb.toNat + range.length.toNat := hin.2.2
    have hfits := husable.1
    rw [fbpRangeToReg, BitVec.toNat_add, BitVec.toNat_setWidth]
    change q.address.toNat + q.extent ≤ _
    omega
  have hbus : (fbpRangeToReg range (range.rb.setWidth 128)).busDtIo ≠
      some b.bridge.dtIo.info.dtIo := by
    rw [bridge_dtIo]
    exact husable.2 hin.1
  have haccess := dtIoAccessReg_of_extent childReg q.width q.count b.bridge.dtIo
    (fbpRangeToReg range (range.rb.setWidth 128)) q.address.toNat q.width_ne hbus
    q.address.isLt (Nat.lt_of_le_of_lt (Nat.le_add_left _ _) hend)
  rw [if_pos hlength, ← hoffset] at haccess
  obtain ⟨hwidth, hcount, hplace⟩ := targetByte_of_dtIoAccessReg haccess
  rw [toNat_offset] at hplace
  exact ⟨_, haccess, hwidth, hcount, hplace⟩

end Refusal

/-- The host memory behind the windows is the device memory; the rest is that of `before`. -/
structure Shows (b : RoutedBridge) (before m : RegByte → U8) (d : DeviceMemory) : Prop where
  holds : ∀ space, ∀ range ∈ b.bridge.windows space, ∀ address, range.Holds address →
    d space address = m (hostByte range address)
  elsewhere : ∀ byte, b.Elsewhere byte → m byte = before byte

section Refine

variable {b : RoutedBridge} {before m : RegByte → U8} {d : DeviceMemory}

theorem holds_of_inRange {q : SpaceRequest} {range : DtRange} (hin : q.InRange range) {k : Nat}
    (hk : k < q.extent) : range.Holds (q.address.toNat + k) := by
  have hlow : range.rb.toNat ≤ q.address.toNat := hin.2.1
  have hhigh : q.address.toNat + q.extent ≤ range.rb.toNat + range.length.toNat := hin.2.2
  exact ⟨Nat.le_add_right_of_le hlow, by omega⟩

theorem Shows.load (h : Shows b before m d) {q : SpaceRequest} {range : DtRange}
    (hmem : range ∈ b.bridge.windows q.space) (hin : q.InRange range) (buffer : Nat → U8) :
    PlacedCopy.load (fun k => hostByte range (q.address.toNat + k)) q.extent m buffer =
      d.read q.space q.address.toNat q.extent buffer := by
  funext k
  rw [PlacedCopy.load, DeviceMemory.read]
  by_cases hk : k < q.extent
  · rw [if_pos hk, if_pos hk, h.holds q.space range hmem _ (holds_of_inRange hin hk)]
  · rw [if_neg hk, if_neg hk]

theorem Shows.write (hseparate : b.Separate) (h : Shows b before m d) {q : SpaceRequest}
    {range : DtRange} (hmem : range ∈ b.bridge.windows q.space) (hin : q.InRange range)
    {buffer : Nat → U8} {m' : RegByte → U8}
    (hinside : ∀ k < q.extent, m' (hostByte range (q.address.toNat + k)) = buffer k)
    (houtside : ∀ byte, (∀ k < q.extent, hostByte range (q.address.toNat + k) ≠ byte) →
      m' byte = m byte) :
    Shows b before m' (d.write q.space q.address.toNat q.extent buffer) := by
  constructor
  · intro space range' hmem' address hholds
    have hsame (k : Nat) (hk : k < q.extent) :=
      hseparate q.space range hmem _ (holds_of_inRange hin hk) space range' hmem' address hholds
    rw [DeviceMemory.write]
    by_cases hwritten : space = q.space ∧ q.address.toNat ≤ address ∧
        address < q.address.toNat + q.extent
    · rw [if_pos hwritten]
      obtain ⟨hspace, hlow, hhigh⟩ := hwritten
      have hk : address - q.address.toNat < q.extent := by omega
      have hbyte := (hsame _ hk).mpr ⟨hspace.symm, by omega⟩
      rw [← hbyte, hinside _ hk]
    · rw [if_neg hwritten, houtside, h.holds space range' hmem' address hholds]
      intro k hk heq
      obtain ⟨hspace, haddress⟩ := (hsame k hk).mp heq
      exact hwritten ⟨hspace.symm, by omega, by omega⟩
  · intro byte helsewhere
    rw [houtside byte fun k hk => helsewhere q.space range hmem _ (holds_of_inRange hin hk)]
    exact h.elsewhere byte helsewhere

theorem hostByte_injOn (hseparate : b.Separate) {q : SpaceRequest} {range : DtRange}
    (hmem : range ∈ b.bridge.windows q.space) (hin : q.InRange range) :
    Set.InjOn (fun k => hostByte range (q.address.toNat + k)) (Set.Iio q.extent) := by
  intro i hi j hj heq
  have hij := ((hseparate q.space range hmem _ (holds_of_inRange hin hi) q.space range hmem _
    (holds_of_inRange hin hj)).mp heq).2
  exact Nat.add_left_cancel hij

theorem spaceAccess_of_accepted (q : SpaceRequest) (h : refusal b q = none) :
    ∃ range ∈ b.bridge.windows q.space, q.InRange range ∧
      ∃ a, spaceAccess b.bridge q = .ok a ∧ a.width = q.width ∧ a.count = q.count ∧
        targetByte a.target = fun k => hostByte range (q.address.toNat + k) := by
  obtain ⟨range, hmem, hin, hend, hcheck⟩ := checkParameter_accepted b q h
  have haccess (childReg : DtIoCallbacks → Bool) :=
    accessReg_of_inRange b q childReg hmem hin hend
  refine ⟨range, hmem, hin, ?_⟩
  rw [spaceAccess_eq, rootBridgeIoAccess, hcheck]
  cases q.read with
  | true => exact haccess DtIoCallbacks.readChildReg
  | false => exact haccess DtIoCallbacks.writeChildReg

theorem spaceAccess_of_refused (q : SpaceRequest) {e : EfiError} (h : refusal b q = some e) :
    spaceAccess b.bridge q = .error e := by
  rw [spaceAccess_eq, rootBridgeIoAccess, checkParameter_refused b q h]

theorem bufferBytes_of_plain {q : SpaceRequest} (hplain : q.width.IsPlain) {a : RegAccess}
    (hwidth : a.width = q.width) (hcount : a.count = q.count) : a.bufferBytes = q.extent := by
  rw [RegAccess.bufferBytes, hwidth, hcount, SpaceRequest.extent, regExtent_of_isPlain hplain]

theorem memoryCall_access (hseparate : b.Separate) (h : Shows b before m d) (q : SpaceRequest)
    (buffer : Nat → U8) (hplain : q.width.IsPlain) :
    (b.memoryCall (.access q buffer) m).1 = (deviceCall b (.access q buffer) d).1 ∧
      Shows b before (b.memoryCall (.access q buffer) m).2
        (deviceCall b (.access q buffer) d).2 := by
  cases hrefusal : refusal b q with
  | some e =>
      rw [RoutedBridge.memoryCall, deviceCall, hrefusal, spaceAccess_of_refused q hrefusal]
      exact ⟨rfl, h⟩
  | none =>
      obtain ⟨range, hmem, hin, a, haccess, hwidth, hcount, hplace⟩ :=
        spaceAccess_of_accepted q hrefusal
      have hbytes := bufferBytes_of_plain hplain hwidth hcount
      rw [RoutedBridge.memoryCall, deviceCall, hrefusal, haccess]
      dsimp only
      by_cases hread : q.read = true
      · have hloaded : (RegMemory.answering.read a buffer m).2.1 =
            d.read q.space q.address.toNat q.extent buffer := by
          rw [← h.load hmem hin buffer, ← hplace, ← hbytes]
          rfl
        rw [if_pos hread, if_pos hread, ← hloaded]
        exact ⟨rfl, h⟩
      · have hstored : (RegMemory.answering.write a buffer m).2 =
            PlacedCopy.store (fun k => hostByte range (q.address.toNat + k)) buffer q.extent
              m := by
          rw [← hplace, ← hbytes]
          rfl
        rw [if_neg hread, if_neg hread]
        refine ⟨rfl, h.write hseparate hmem hin (fun k hk => ?_) fun byte hbyte => ?_⟩
        · dsimp only
          rw [hstored]
          exact PlacedCopy.store_inside _ buffer q.extent m (hostByte_injOn hseparate hmem hin) hk
        · dsimp only
          rw [hstored]
          exact PlacedCopy.store_outside _ buffer q.extent m byte hbyte

theorem copyReg_status {this : Option DtDevice} {width : DtIoWidth} {dest src : DtReg}
    {destOffset srcOffset : DtSize} {count : Uintn} (pool : Uintn → Bool) (m : RegByte → U8)
    {a c : RegAccess} (hwidth : width ≠ .maximum) (hthis : this ≠ none)
    (hread : dtIoReadReg this width (some src) srcOffset count true = .ok a)
    (hwrite : dtIoWriteReg this width (some dest) destOffset count true = .ok c) :
    let run := dtIoCopyReg RegMemory.answering.toRegWorld pool this width (some dest) destOffset
      (some src) srcOffset count m
    (pool (copyBufferSize width count) = true → run.status = .ok ()) ∧
      (¬ pool (copyBufferSize width count) = true →
        run.status = .error .outOfResources ∧ run.world = m) := by
  have hargs : ¬ (this.isNone || (some dest).isNone || (some src).isNone ||
      decide (width.index ≥ DtIoWidth.maximum.index)) = true := by
    have hindex := index_lt_maximum width hwidth
    cases this with
    | none => exact absurd rfl hthis
    | some device => simp [hindex]
  dsimp only
  rw [dtIoCopyReg, if_neg hargs, hread, hwrite]
  constructor
  · intro hpool
    simp only [hpool, Bool.not_true, Bool.false_eq_true, if_false]
    rfl
  · intro hpool
    rw [Bool.not_eq_true] at hpool
    simp only [hpool, Bool.not_false, if_true, and_self]

theorem memoryCall_copyMem (hseparate : b.Separate) (h : Shows b before m d) (c : SpaceCopy)
    (pool : Uintn → Bool) (hplain : c.width.IsPlain) :
    (b.memoryCall (.copyMem c pool) m).1 = (deviceCall b (.copyMem c pool) d).1 ∧
      Shows b before (b.memoryCall (.copyMem c pool) m).2
        (deviceCall b (.copyMem c pool) d).2 := by
  rw [RoutedBridge.memoryCall, deviceCall, rootBridgeIoCopyMem, checkParameter_noBuffer,
    checkParameter_noBuffer]
  cases hsource : refusal b c.source with
  | some e =>
      have hcheck : rootBridgeIoCheckParameter b.bridge .memOperation c.width c.srcAddress
          c.count true = .error e := checkParameter_refused b c.source hsource
      rw [hcheck]
      exact ⟨rfl, h⟩
  | none =>
      obtain ⟨srcRange, hsrcMem, hsrcIn, hsrcEnd, hcheck⟩ :=
        checkParameter_accepted b c.source hsource
      have hcheck : rootBridgeIoCheckParameter b.bridge .memOperation c.width c.srcAddress
          c.count true = .ok (fbpRangeToReg srcRange (srcRange.rb.setWidth 128)) := hcheck
      rw [hcheck]
      cases hdest : refusal b c.dest with
      | some e =>
          have hcheck : rootBridgeIoCheckParameter b.bridge .memOperation c.width c.destAddress
              c.count true = .error e := checkParameter_refused b c.dest hdest
          rw [hcheck]
          exact ⟨rfl, h⟩
      | none =>
          obtain ⟨destRange, hdestMem, hdestIn, hdestEnd, hcheck⟩ :=
            checkParameter_accepted b c.dest hdest
          have hcheck : rootBridgeIoCheckParameter b.bridge .memOperation c.width c.destAddress
              c.count true = .ok (fbpRangeToReg destRange (destRange.rb.setWidth 128)) := hcheck
          rw [hcheck]
          obtain ⟨a, hread, -⟩ := accessReg_of_inRange b c.source DtIoCallbacks.readChildReg
            hsrcMem hsrcIn hsrcEnd
          obtain ⟨a', hwrite, -⟩ := accessReg_of_inRange b c.dest DtIoCallbacks.writeChildReg
            hdestMem hdestIn hdestEnd
          obtain ⟨hcopies, hrefuses⟩ :=
            copyReg_status pool m c.width_ne (Option.some_ne_none _) hread hwrite
          dsimp only
          by_cases hpool : pool (copyBufferSize c.width c.count) = true
          · have hstatus := hcopies hpool
            have hcopied := snapshotCopied_of_ok RegMemory.answering hplain
              (Nat.lt_of_le_of_lt (Nat.le_add_left _ _) hdestEnd) rfl hstatus
            rw [SnapshotCopied, toNat_offset, toNat_offset] at hcopied
            obtain ⟨hinside, houtside⟩ := hcopied
            rw [if_pos hpool]
            refine ⟨congrArg (Prod.mk · zeroBuffer) hstatus,
              h.write hseparate hdestMem hdestIn (fun k hk => ?_) houtside⟩
            rw [DeviceMemory.read, if_pos (show k < c.source.extent from hk)]
            exact (hinside k hk).trans (h.holds _ srcRange hsrcMem _
              (holds_of_inRange hsrcIn hk)).symm
          · obtain ⟨hstatus, hworld⟩ := hrefuses hpool
            rw [if_neg hpool]
            exact ⟨congrArg (Prod.mk · zeroBuffer) hstatus, Eq.symm hworld ▸ h⟩

end Refine

def lowWindow : DtRange := ⟨0x100000000, 0x4000000000, 0x4000000000, 0x1000, none⟩

def highWindow : DtRange := ⟨0x200000000, 0x5000000000, 0x5000000000, 0x1000, none⟩

/-- Two 64-bit windows, moved by different distances. -/
def shiftedBridge : RoutedBridge where
  found := { uniformBridge absentWindow with
    memAbove4GRange := lowWindow
    pMemAbove4GRange := highWindow }
  vgaIo1_absent := rfl
  vgaIo2_absent := rfl
  vgaMem_absent := rfl
  fits a := by cases a <;> decide
  ancestor a := by cases a <;> decide

theorem windows_shiftedBridge (space : PciSpace) (range : DtRange)
    (hmem : range ∈ shiftedBridge.bridge.windows space) (address : Nat)
    (h : range.Holds address) : space = .mem ∧ (range = lowWindow ∨ range = highWindow) := by
  have habsent : ¬ absentWindow.Holds address := by
    rintro ⟨hlow, hhigh⟩
    exact Nat.not_lt.mpr hlow hhigh
  cases space with
  | io =>
      have heach : range = absentWindow := by
        simpa [PciRootBridge.windows, RoutedBridge.bridge, setVgaWindows, shiftedBridge,
          uniformBridge, absentWindow, DtRange.valid] using hmem
      exact absurd (heach ▸ h) habsent
  | mem =>
      have heach : range = absentWindow ∨ range = lowWindow ∨ range = highWindow := by
        simpa [PciRootBridge.windows, RoutedBridge.bridge, setVgaWindows, shiftedBridge,
          uniformBridge, absentWindow, DtRange.valid] using hmem
      refine ⟨rfl, ?_⟩
      rcases heach with rfl | hwindow
      · exact absurd h habsent
      · exact hwindow

theorem hostByte_shiftedBridge (space : PciSpace) (range : DtRange)
    (hmem : range ∈ shiftedBridge.bridge.windows space) (address : Nat)
    (h : range.Holds address) :
    space = .mem ∧
      ((hostByte range address = .cpu (BitVec.ofNat 64 (address + 0x3F00000000)) ∧
          0x100000000 ≤ address ∧ address < 0x100001000) ∨
        (hostByte range address = .cpu (BitVec.ofNat 64 (address + 0x4E00000000)) ∧
          0x200000000 ≤ address ∧ address < 0x200001000)) := by
  obtain ⟨hspace, rfl | rfl⟩ := windows_shiftedBridge space range hmem address h
  · obtain ⟨hlow, hhigh⟩ := h
    refine ⟨hspace, .inl ⟨congrArg RegByte.cpu ?_, hlow, hhigh⟩⟩
    exact BitVec.eq_of_toNat_eq (by simp [lowWindow, fbpRangeToReg, DtRange.rb]; omega)
  · obtain ⟨hlow, hhigh⟩ := h
    refine ⟨hspace, .inr ⟨congrArg RegByte.cpu ?_, hlow, hhigh⟩⟩
    exact BitVec.eq_of_toNat_eq (by simp [highWindow, fbpRangeToReg, DtRange.rb]; omega)

theorem shiftedBridge_separate : shiftedBridge.Separate := by
  intro space range hmem address h space' range' hmem' address' h'
  obtain ⟨hspace, hbyte⟩ := hostByte_shiftedBridge space range hmem address h
  obtain ⟨hspace', hbyte'⟩ := hostByte_shiftedBridge space' range' hmem' address' h'
  rw [hspace, hspace', and_iff_right rfl]
  rcases hbyte with ⟨hbyte, hlow, hhigh⟩ | ⟨hbyte, hlow, hhigh⟩ <;>
    rcases hbyte' with ⟨hbyte', hlow', hhigh'⟩ | ⟨hbyte', hlow', hhigh'⟩ <;>
      rw [hbyte, hbyte', RegByte.cpu.injEq, BitVec.toNat_eq, BitVec.toNat_ofNat,
        BitVec.toNat_ofNat] <;> omega

/-- Four bytes, written to one window, copied to the other and read there. -/
def copySession : List MemoryCall :=
  [.access ⟨.mem, false, .uint32, 0x100000010, 1, by decide, by decide⟩ (BitVec.ofNat 8),
    .copyMem ⟨.uint16, 0x200000ffc, 0x100000010, 2, by decide, by decide⟩ fun _ => true,
    .access ⟨.mem, true, .uint8, 0x200000ffe, 2, by decide, by decide⟩ zeroBuffer]

end FdtBusPkg
