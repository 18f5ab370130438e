import FdtBusPkg.DtBus.RegParse

/-!
The surroundings of the bus driver: the devicetree with its phandle and path
queries, and the handle database behind `Lookup` and `HandleProtocol`. A phandle
names one node and a node has one handle, so the lookups are functions.
-/
namespace FdtBusPkg

structure DtBus where
  fdt : Fdt
  /-- `fdt_node_offset_by_phandle`; negative when there is no such node. -/
  nodeOffsetByPhandle : U32 → Int
  /-- `fdt_get_path` into a buffer grown until the path fits. -/
  nodePath : Int → EfiResult String
  /-- `DtIoLookup`, with its `Connect` argument. -/
  lookup : DtDevice → String → Bool → EfiResult EfiHandle
  /-- `HandleProtocol` for the devicetree I/O protocol. -/
  handleProtocol : EfiHandle → EfiResult DtDevice

def dtIoParsePropDevice (bus : DtBus) (device : DtDevice) (p : DtProperty) (index : Nat) :
    EfiResult EfiHandle × DtProperty :=
  match dtIoParsePropU32 bus.fdt.mem p index with
  | (.error e, _) => (.error e, p)
  | (.ok phandle, q) =>
    let nodeOffset := bus.nodeOffsetByPhandle phandle
    if nodeOffset < 0 then
      (.error .notFound, p)
    else
      match bus.nodePath nodeOffset with
      | .error e => (.error e, p)
      | .ok path =>
        match bus.lookup device path true with
        | .error e => (.error e, p)
        | .ok handle => (.ok handle, q)

def dtIoGetDevice (bus : DtBus) (device : DtDevice) (name : String) (index : Nat) :
    EfiResult EfiHandle :=
  match dtIoGetProp bus.fdt device name with
  | .error e => .error e
  | .ok p => (dtIoParsePropDevice bus device p index).1

theorem dtIoParsePropDevice_zero (bus : DtBus) (device : DtDevice) (p q : DtProperty)
    (handle : EfiHandle) (h : dtIoParsePropDevice bus device p 0 = (.ok handle, q)) :
    p.iter < q.iter ∧ q.end_ = p.end_ := by
  unfold dtIoParsePropDevice dtIoParsePropU32 at h
  by_cases hcells : p.cells ≤ 0
  · simp [hcells] at h
  · simp only [dif_neg hcells] at h
    split at h
    · simp at h
    · split at h
      · simp at h
      · split at h
        · simp at h
        · simp only [Prod.mk.injEq] at h
          obtain ⟨-, rfl⟩ := h
          simp

end FdtBusPkg
