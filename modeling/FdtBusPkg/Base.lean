import FdtBusPkg.Library.Span

/-!
Types shared by every component: the fixed-width integers of the firmware
environment, EFI status values and the register space descriptors of the
devicetree I/O protocol. The supported architectures are 64-bit, so `UINTN`
is 64 bits wide; bus addresses and sizes are 128 bits wide.
-/
namespace FdtBusPkg

abbrev U8 := BitVec 8
abbrev U32 := BitVec 32
abbrev U64 := BitVec 64
abbrev U128 := BitVec 128
abbrev Uintn := U64
abbrev DtBusAddress := U128
abbrev DtSize := U128

/-- The EFI error codes returned by the modelled code. -/
inductive EfiError
  | invalidParameter
  | unsupported
  | notFound
  | deviceError
  | outOfResources
  | bufferTooSmall
  | accessDenied
  | alreadyStarted
  | notReady
  | timeout
  | badBufferSize
  | writeProtected
  deriving DecidableEq, Repr

/-- A status together with the out parameters written on success. -/
abbrev EfiResult (α : Type) := Except EfiError α

abbrev EfiStatus := EfiResult Unit

instance {α : Type} [DecidableEq α] : DecidableEq (EfiResult α) := fun
  | .ok a, .ok b => decidable_of_iff (a = b) (by simp)
  | .error a, .error b => decidable_of_iff (a = b) (by simp)
  | .ok _, .error _ => .isFalse (by simp)
  | .error _, .ok _ => .isFalse (by simp)

/-- `MAX_ADDRESS` of the 64-bit architectures. -/
def MAX_ADDRESS : Nat := 0xFFFFFFFFFFFFFFFF

def MAX_UINT64 : U64 := 0xFFFFFFFFFFFFFFFF

def MIN (a b : U64) : U64 := if a < b then a else b

theorem toNat_MIN (a b : U64) : (MIN a b).toNat = min a.toNat b.toNat := by
  rw [MIN]
  split
  · next h => exact (Nat.min_eq_left (Nat.le_of_lt h)).symm
  · next h => exact (Nat.min_eq_right (Nat.le_of_not_lt h)).symm

/-- Identity of an `EFI_DT_IO_PROTOCOL` instance. -/
abbrev DtIoRef := Nat

abbrev EfiHandle := Nat

abbrev PoolRef := Nat

/-- `EFI_DT_REG`; `busDtIo = none` means `translatedBase` is a CPU address. -/
structure DtReg where
  busBase : DtBusAddress
  translatedBase : DtBusAddress
  length : DtSize
  busDtIo : Option DtIoRef
  deriving DecidableEq, Repr

/-- `EFI_DT_RANGE`. -/
structure DtRange where
  childBase : DtBusAddress
  parentBase : DtBusAddress
  translatedParentBase : DtBusAddress
  length : DtSize
  busDtIo : Option DtIoRef
  deriving DecidableEq, Repr

end FdtBusPkg
