import Mathlib.Tactic.Common
import FdtBusPkg.Base

/-!
Device paths of devicetree nodes. A path is the sequence of its nodes without the
end node, each node the bytes that its 16-bit length field claims. The node of a
name shorter than 65515 bytes is the whole node, and no other name has it.
-/
namespace FdtBusPkg

/-- A `CHAR8` string without its terminator. -/
abbrev AsciiStr := List U8

abbrev DevicePath := List (List U8)

def HARDWARE_DEVICE_PATH : U8 := 0x01
def HW_VENDOR_DP : U8 := 0x04

def gEfiDtDevicePathGuid : List U8 :=
  [0xb0, 0xa2, 0xe5, 0x5c, 0x38, 0x28, 0x35, 0x3c, 0x1e, 0xe3, 0x42, 0x5e, 0x36, 0x50, 0xa2, 0x9c]

def END_DEVICE_PATH : List U8 := [0x7f, 0xff, 0x04, 0x00]

def EFI_DT_DEVICE_PATH_NODE_SIZE : Nat := 20

/-- The buffer that `FbpPathNodeCreate` fills. -/
def fbpPathNodeCreate (name : AsciiStr) : List U8 :=
  let size := EFI_DT_DEVICE_PATH_NODE_SIZE + (name.length + 1)
  [HARDWARE_DEVICE_PATH, HW_VENDOR_DP, BitVec.ofNat 8 size, BitVec.ofNat 8 (size >>> 8)] ++
    (gEfiDtDevicePathGuid ++ (name ++ [0]))

def devicePathNodeLength (node : List U8) : Nat :=
  (node.getD 2 0).toNat + (node.getD 3 0).toNat * 256

/-- `AppendDevicePathNode`. The library asserts that a node holds its own header; a
shorter one is not appended. -/
def appendDevicePathNode (path : DevicePath) (node : List U8) : Option DevicePath :=
  let length := devicePathNodeLength node
  if length < 4 then none else some (path ++ [node.take length])

def devicePathBytes (path : DevicePath) : List U8 := path.flatten ++ END_DEVICE_PATH

/-- The type, subtype and GUID of the first node are those of a devicetree node. -/
def isDtDevicePathNode (path : DevicePath) : Bool :=
  (devicePathBytes path).take 2 = [HARDWARE_DEVICE_PATH, HW_VENDOR_DP] &&
    ((devicePathBytes path).drop 4).take 16 = gEfiDtDevicePathGuid

/-- The string at `Name` of the first node. -/
def devicePathNodeName (path : DevicePath) : AsciiStr :=
  ((devicePathBytes path).drop EFI_DT_DEVICE_PATH_NODE_SIZE).takeWhile (· ≠ 0)

def dtPathNode (name : AsciiStr) : List U8 :=
  (fbpPathNodeCreate name).take (devicePathNodeLength (fbpPathNodeCreate name))

/-- The name fits the length field of its node. -/
def ShortName (name : AsciiStr) : Prop := name.length < 65515

instance (name : AsciiStr) : Decidable (ShortName name) := Nat.decLt _ _

section Nodes

variable (name : AsciiStr)

theorem length_fbpPathNodeCreate : (fbpPathNodeCreate name).length = 21 + name.length := by
  simp only [fbpPathNodeCreate, gEfiDtDevicePathGuid, List.length_append, List.length_cons,
    List.length_nil]
  omega

theorem devicePathNodeLength_create :
    devicePathNodeLength (fbpPathNodeCreate name) = (21 + name.length) % 65536 := by
  have hlow (n : Nat) : n % 256 + n / 256 % 256 * 256 = n % 65536 := by omega
  simp only [devicePathNodeLength, fbpPathNodeCreate, EFI_DT_DEVICE_PATH_NODE_SIZE,
    List.cons_append, List.getD_cons_succ, List.getD_cons_zero, BitVec.toNat_ofNat,
    Nat.shiftRight_eq_div_pow]
  rw [show 20 + (name.length + 1) = 21 + name.length by omega]
  exact hlow (21 + name.length)

theorem dtPathNode_of_short (h : ShortName name) : dtPathNode name = fbpPathNodeCreate name := by
  rw [ShortName] at h
  rw [dtPathNode, devicePathNodeLength_create]
  apply List.take_of_length_le
  rw [length_fbpPathNodeCreate]
  omega

theorem appendDevicePathNode_create (path : DevicePath) :
    appendDevicePathNode path (fbpPathNodeCreate name) =
      if (21 + name.length) % 65536 < 4 then none else some (path ++ [dtPathNode name]) := by
  rw [appendDevicePathNode, dtPathNode, devicePathNodeLength_create]

theorem appendDevicePathNode_short (path : DevicePath) (h : ShortName name) :
    appendDevicePathNode path (fbpPathNodeCreate name) = some (path ++ [dtPathNode name]) := by
  rw [ShortName] at h
  rw [appendDevicePathNode_create, if_neg (by omega)]

theorem drop_fbpPathNodeCreate : (fbpPathNodeCreate name).drop 20 = name ++ [0] := rfl

theorem eq_of_dtPathNode_eq (other : AsciiStr) (h : ShortName name) (hother : 0 ∉ other)
    (heq : dtPathNode name = dtPathNode other) : other = name := by
  have hlength := congrArg List.length heq
  rw [dtPathNode_of_short name h, dtPathNode, List.length_take, length_fbpPathNodeCreate,
    length_fbpPathNodeCreate, devicePathNodeLength_create] at hlength
  have hdrop := congrArg (List.drop 20) heq
  rw [dtPathNode_of_short name h, dtPathNode, List.drop_take, drop_fbpPathNodeCreate,
    drop_fbpPathNodeCreate, devicePathNodeLength_create] at hdrop
  have hcount : (21 + other.length) % 65536 - 20 = name.length + 1 := by omega
  rw [hcount] at hdrop
  obtain hlt | hle := Nat.lt_or_ge name.length other.length
  · rw [List.take_append_of_le_length hlt] at hdrop
    have hmem : (0 : U8) ∈ name ++ [0] := by simp
    rw [hdrop] at hmem
    exact absurd (List.mem_of_mem_take hmem) hother
  · have hsame : other.length = name.length := by omega
    rw [List.take_of_length_le (by simp [hsame])] at hdrop
    exact (List.append_cancel_right hdrop).symm

end Nodes

end FdtBusPkg
