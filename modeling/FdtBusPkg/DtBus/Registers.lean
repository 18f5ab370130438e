import FdtBusPkg.DtBus.Device

/-!
Register accesses through `ReadReg`, `WriteReg` and `CopyReg`. An access that
passes the checks is forwarded to CpuIo2, to the bus device's accessor or to its
callback; the model returns the forwarded access as a value, so that returning
an error is the same as making no access.
-/
namespace FdtBusPkg

/-- `EFI_DT_IO_PROTOCOL_WIDTH`; `maximum` stands for every value from
`EfiDtIoWidthMaximum` on. -/
inductive DtIoWidth
  | uint8 | uint16 | uint32 | uint64
  | fifoUint8 | fifoUint16 | fifoUint32 | fifoUint64
  | fillUint8 | fillUint16 | fillUint32 | fillUint64
  | maximum
  deriving DecidableEq, Repr

namespace DtIoWidth

def index : DtIoWidth → Nat
  | uint8 => 0
  | uint16 => 1
  | uint32 => 2
  | uint64 => 3
  | fifoUint8 => 4
  | fifoUint16 => 5
  | fifoUint32 => 6
  | fifoUint64 => 7
  | fillUint8 => 8
  | fillUint16 => 9
  | fillUint32 => 10
  | fillUint64 => 11
  | maximum => 12

/-- `DT_IO_PROTOCOL_WIDTH (x)`, that is `1 << (x & 0x3)`. -/
def bytes (w : DtIoWidth) : Nat := 1 <<< (w.index &&& 0x3)

def IsFifo (w : DtIoWidth) : Prop := fifoUint8.index ≤ w.index ∧ w.index ≤ fifoUint64.index

instance (w : DtIoWidth) : Decidable w.IsFifo := inferInstanceAs (Decidable (_ ∧ _))

theorem bytes_pos (w : DtIoWidth) : 0 < w.bytes := by cases w <;> decide

theorem bytes_le (w : DtIoWidth) : w.bytes ≤ 8 := by cases w <;> decide

end DtIoWidth

inductive RegTarget
  | cpuIo2 (address : U64)
  | busDtIo (bus : DtIoRef) (reg : DtReg) (offset : DtSize)
  | childReg (bus : DtIoRef) (reg : DtReg) (offset : DtSize)
  deriving DecidableEq, Repr

structure RegAccess where
  target : RegTarget
  width : DtIoWidth
  count : Uintn
  deriving DecidableEq, Repr

/-- `Offset + AddressIncrement * DT_IO_PROTOCOL_WIDTH (Width)` as the code
computes it: the product in `UINTN`, the sum in `EFI_DT_SIZE`. -/
def regAccessEnd (width : DtIoWidth) (offset : DtSize) (count : Uintn) : DtSize :=
  let addressIncrement : Uintn := if width.IsFifo then 1 else count
  offset + (addressIncrement * BitVec.ofNat 64 width.bytes).setWidth 128

/-- The common body of `DtIoReadReg` and `DtIoWriteReg`; `childReg` selects the
callback the bus device needs and `buffer` says that `Buffer` is not `NULL`. -/
def dtIoAccessReg (childReg : DtIoCallbacks → Bool) (this : Option DtDevice)
    (width : DtIoWidth) (reg : Option DtReg) (offset : DtSize) (count : Uintn)
    (buffer : Bool) : EfiResult RegAccess :=
  match this, reg with
  | some device, some reg =>
    if !buffer || width.index ≥ DtIoWidth.maximum.index then
      .error .invalidParameter
    else if regAccessEnd width offset count > reg.length then
      .error .invalidParameter
    else
      match reg.busDtIo with
      | some bus =>
        if device.info.dtIo = bus then
          match device.info.callbacks with
          | none => .error .unsupported
          | some callbacks =>
            if childReg callbacks then
              .ok ⟨.childReg bus reg offset, width, count⟩
            else
              .error .unsupported
        else
          .ok ⟨.busDtIo bus reg offset, width, count⟩
      | none => .ok ⟨.cpuIo2 ((reg.translatedBase + offset).setWidth 64), width, count⟩
  | _, _ => .error .invalidParameter

def dtIoWriteReg (this : Option DtDevice) (width : DtIoWidth) (reg : Option DtReg)
    (offset : DtSize) (count : Uintn) (buffer : Bool) : EfiResult RegAccess :=
  dtIoAccessReg DtIoCallbacks.writeChildReg this width reg offset count buffer

def dtIoReadReg (this : Option DtDevice) (width : DtIoWidth) (reg : Option DtReg)
    (offset : DtSize) (count : Uintn) (buffer : Bool) : EfiResult RegAccess :=
  dtIoAccessReg DtIoCallbacks.readChildReg this width reg offset count buffer

/-- What forwarded accesses do to the rest of the system, and the contents a
read leaves in the buffer. -/
structure RegWorld (σ : Type) where
  read : RegAccess → (Nat → U8) → σ → EfiStatus × (Nat → U8) × σ
  write : RegAccess → (Nat → U8) → σ → EfiStatus × σ

/-- What `DtIoCopyReg` does, in order. -/
inductive CopyEvent
  | allocate (size : Uintn)
  | read (access : RegAccess)
  | write (access : RegAccess)
  | free
  deriving DecidableEq, Repr

structure CopyRun (σ : Type) where
  status : EfiStatus
  events : List CopyEvent
  world : σ

/-- `BufferSize` of `DtIoCopyReg`. -/
def copyBufferSize (width : DtIoWidth) (count : Uintn) : Uintn :=
  let bufferSize := BitVec.ofNat 64 width.bytes * count
  if bufferSize = 0 then bufferSize + 1 else bufferSize

/-- A buffer from `AllocateZeroPool`. -/
def zeroBuffer : Nat → U8 := fun _ => 0

/-- `DtIoCopyReg`; `allocateZeroPool` says which sizes the pool can provide. -/
def dtIoCopyReg {σ : Type} (world : RegWorld σ) (allocateZeroPool : Uintn → Bool)
    (this : Option DtDevice) (width : DtIoWidth) (destReg : Option DtReg)
    (destOffset : DtSize) (srcReg : Option DtReg) (srcOffset : DtSize)
    (count : Uintn) (s : σ) : CopyRun σ :=
  if this.isNone || destReg.isNone || srcReg.isNone ||
      width.index ≥ DtIoWidth.maximum.index then
    ⟨.error .invalidParameter, [], s⟩
  else
    let bufferSize := copyBufferSize width count
    if !allocateZeroPool bufferSize then
      ⟨.error .outOfResources, [], s⟩
    else
      match dtIoReadReg this width srcReg srcOffset count true with
      | .error e => ⟨.error e, [.allocate bufferSize, .free], s⟩
      | .ok source =>
        match world.read source zeroBuffer s with
        | (.error e, _, s) => ⟨.error e, [.allocate bufferSize, .read source, .free], s⟩
        | (.ok _, buffer, s) =>
          match dtIoWriteReg this width destReg destOffset count true with
          | .error e => ⟨.error e, [.allocate bufferSize, .read source, .free], s⟩
          | .ok dest =>
            let (status, s) := world.write dest buffer s
            ⟨status, [.allocate bufferSize, .read source, .write dest, .free], s⟩

end FdtBusPkg
