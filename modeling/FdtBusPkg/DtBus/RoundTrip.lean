import FdtBusPkg.DtBus.ParseContract
import FdtBusPkg.DtBus.StringList

/-!
Reading what was written. A property that holds numbers and strings one after the other gives
them back, call by call, and then nothing more.
-/
namespace FdtBusPkg

/-- What a property is written from: a number in the cells of a type, or a string. -/
inductive PropField
  | number (type : DtValueType) (value : Nat)
  | string (s : CString)

/-- The cells of a type that is read as one number, an address having some. -/
def DtValueType.width (device : DtDevice) : DtValueType → Option Nat
  | .u32 => some 1
  | .u64 => some 2
  | .busAddress =>
    if device.info.addressCells.val = 0 then none else some device.info.addressCells.val
  | .childBusAddress =>
    if device.info.childAddressCells.val = 0 then none else some device.info.childAddressCells.val
  | .size => some device.info.sizeCells.val
  | .childSize => some device.info.childSizeCells.val
  | _ => none

namespace PropField

variable (device : DtDevice)

def type : PropField → DtValueType
  | number type _ => type
  | string _ => .string

def Writable : PropField → Prop
  | number type value => ∃ cells, type.width device = some cells ∧ value < 256 ^ (4 * cells)
  | string _ => True

def encode : PropField → List U8
  | number type value => BigEndian.bytes (4 * (type.width device).getD 0) value
  | string s => s.val ++ [0]

/-- The value is of the number, or the address of the string. -/
def ReadAs (mem : Nat → U8) : PropField → DtValue → Prop
  | number _ value, v => v.numbers = [value]
  | string s, v => ∃ a, v = .string a ∧ HoldsString mem a s.val

end PropField

def DtProperty.left (mem : Nat → U8) (p : DtProperty) : List U8 :=
  BigEndian.bytesAt mem p.iter (p.end_ - p.iter)

section Parse

variable {σ : Type} (bus : DtBus) (applyGcd : ApplyGcd σ) (device : DtDevice)

/-- Calls of `ParseProp` one after the other, each for the value at the cursor. -/
def parseProps :
    List DtValueType → DtProperty → σ → EfiResult (List DtValue × DtProperty × σ)
  | [], p, s => .ok ([], p, s)
  | type :: types, p, s =>
    match dtIoParseProp bus applyGcd device p type 0 s with
    | ((.error e, _), _) => .error e
    | ((.ok v, p), s) =>
      match parseProps types p s with
      | .error e => .error e
      | .ok (vs, p, s) => .ok (v :: vs, p, s)

variable (p : DtProperty) (s : σ)

theorem dtIoParseProp_number {type : DtValueType} {cells index : Nat}
    (hwidth : type.width device = some cells)
    (hfits : p.iter + 4 * (cells * (index + 1)) ≤ p.end_) :
    ∃ v q, dtIoParseProp bus applyGcd device p type index s = ((.ok v, q), s) := by
  have hcells : cells * (index + 1) ≤ p.cells := by
    rw [DtProperty.cells]
    omega
  have helem (hpos : 0 < cells) : ∃ v q, parseElem bus.fdt.mem cells p index = (.ok v, q) := by
    rw [parseElem, dif_neg]
    · exact ⟨_, _, rfl⟩
    · rw [Nat.not_le, Nat.lt_iff_add_one_le, Nat.le_div_iff_mul_le hpos, Nat.mul_comm]
      exact hcells
  have haddress (count : CellCount) (hcount : count.val = cells) (hpos : 0 < cells) :
      ∃ v q, parseAddressElem bus.fdt.mem count p index = (.ok v, q) := by
    rw [parseAddressElem, if_neg (by omega), hcount]
    exact helem hpos
  have hsize (count : CellCount) (hcount : count.val = cells) :
      ∃ v q, parseSizeElem bus.fdt.mem count p index = (.ok v, q) := by
    rw [parseSizeElem]
    split
    · exact ⟨_, _, rfl⟩
    · rw [hcount]
      exact helem (by omega)
  cases type with
  | u32 =>
      obtain rfl := Option.some.inj hwidth
      obtain ⟨v, q, hparse⟩ := helem Nat.one_pos
      rw [dtIoParseProp, dtIoParsePropU32_eq_parseElem, hparse]
      exact ⟨_, _, rfl⟩
  | u64 =>
      obtain rfl := Option.some.inj hwidth
      obtain ⟨v, q, hparse⟩ := helem Nat.two_pos
      rw [dtIoParseProp, dtIoParsePropU64, hparse]
      exact ⟨_, _, rfl⟩
  | busAddress =>
      simp only [DtValueType.width, Option.ite_none_left_eq_some, Option.some.injEq] at hwidth
      obtain ⟨v, q, hparse⟩ := haddress _ hwidth.2 (by omega)
      rw [dtIoParseProp, dtIoParsePropBusAddress, hparse]
      exact ⟨_, _, rfl⟩
  | childBusAddress =>
      simp only [DtValueType.width, Option.ite_none_left_eq_some, Option.some.injEq] at hwidth
      obtain ⟨v, q, hparse⟩ := haddress _ hwidth.2 (by omega)
      rw [dtIoParseProp, dtIoParsePropChildBusAddress, hparse]
      exact ⟨_, _, rfl⟩
  | size =>
      obtain ⟨v, q, hparse⟩ := hsize _ (Option.some.inj hwidth)
      rw [dtIoParseProp, dtIoParsePropSize, hparse]
      exact ⟨_, _, rfl⟩
  | childSize =>
      obtain ⟨v, q, hparse⟩ := hsize _ (Option.some.inj hwidth)
      rw [dtIoParseProp, dtIoParsePropChildSize, hparse]
      exact ⟨_, _, rfl⟩
  | u128 | reg | range | string | device => cases hwidth

theorem numberCells_of_width {type : DtValueType} {cells : Nat}
    (hwidth : type.width device = some cells) :
    type.numberCells device = [cells] ∧ type.elementCells device = some cells := by
  cases type with
  | u32 | u64 | size | childSize =>
      obtain rfl := Option.some.inj hwidth
      exact ⟨rfl, rfl⟩
  | busAddress | childBusAddress =>
      simp only [DtValueType.width, Option.ite_none_left_eq_some, Option.some.injEq] at hwidth
      obtain rfl := hwidth.2
      exact ⟨rfl, rfl⟩
  | u128 | reg | range | string | device => cases hwidth

theorem left_eq_append {mem : Nat → U8} {xs ys : List U8} (h : p.left mem = xs ++ ys) :
    p.iter + xs.length ≤ p.end_ ∧ BigEndian.bytesAt mem p.iter xs.length = xs ∧
      BigEndian.bytesAt mem (p.iter + xs.length) (p.end_ - (p.iter + xs.length)) = ys := by
  obtain ⟨hlength, hxs, hys⟩ := bytesAt_eq_append mem h
  have hle := p.iter_le
  have hleft : p.end_ - (p.iter + xs.length) = ys.length := by omega
  rw [hleft]
  exact ⟨by omega, hxs, hys⟩

theorem dtIoParseProp_string {value : CString} {rest : List U8} {mem : Nat → U8}
    (h : p.left mem = value.val ++ 0 :: rest) :
    ∃ q, dtIoParsePropString mem p 0 = (.ok p.iter, q) ∧
      q.iter = p.iter + value.val.length + 1 ∧ q.end_ = p.end_ := by
  have hfind := asciiStrFindEndLoop_some mem value.property h
  have hlt : p.iter < p.end_ := by
    have hlength := congrArg List.length h
    rw [DtProperty.left, BigEndian.length_bytesAt, List.length_append, List.length_cons] at hlength
    omega
  have hloop : parsePropStringLoop mem p.end_ 0 p.iter =
      some (p.iter, p.iter + value.val.length + 1) := by
    rw [parsePropStringLoop, if_pos hlt, asciiStrFindEnd, hfind]
  obtain ⟨hnone, -⟩ | ⟨start, stop, hlow, hhigh, hsome, hparse⟩ :=
    dtIoParsePropString_cases p mem 0
  · rw [hloop] at hnone
    cases hnone
  · rw [hloop, Option.some.injEq, Prod.mk.injEq] at hsome
    obtain ⟨rfl, rfl⟩ := hsome
    exact ⟨_, hparse, rfl, rfl⟩

theorem dtIoParseProp_field {field : PropField} {rest : List U8} (hfield : field.Writable device)
    (h : p.left bus.fdt.mem = field.encode device ++ rest) :
    ∃ v q, dtIoParseProp bus applyGcd device p field.type 0 s = ((.ok v, q), s) ∧
      field.ReadAs bus.fdt.mem v ∧ q.left bus.fdt.mem = rest := by
  obtain ⟨hfits, hbytes, hrest⟩ := left_eq_append p h
  cases field with
  | number type value =>
      obtain ⟨cells, hwidth, hvalue⟩ := hfield
      rw [PropField.encode, hwidth, Option.getD_some, BigEndian.length_bytes] at hfits hbytes hrest
      have hcells : p.iter + 4 * (cells * (0 + 1)) ≤ p.end_ := by omega
      obtain ⟨v, q, hparse⟩ := dtIoParseProp_number bus applyGcd device p s hwidth hcells
      obtain ⟨hnumber, helement⟩ := numberCells_of_width device hwidth
      have hread :=
        (parseContract_number bus applyGcd device p 0 s hnumber).success v q s hparse
      obtain ⟨start, hat, hnumbers, -⟩ := hread.element
      rw [ElementAt, helement] at hat
      obtain ⟨hstart, hiter⟩ := hat
      rw [Nat.mul_zero, Nat.mul_zero, Nat.add_zero] at hstart
      rw [Nat.zero_add, Nat.mul_one] at hiter
      refine ⟨v, q, hparse, ?_, ?_⟩
      · rw [PropField.ReadAs, hnumbers, hnumber, numbersAt, numbersAt, hstart, hbytes,
          BigEndian.value_bytes hvalue]
      · rw [DtProperty.left, hread.end_eq, hiter]
        exact hrest
  | string value =>
      rw [PropField.encode, List.length_append, List.length_singleton, ← Nat.add_assoc] at hrest
      rw [PropField.encode, List.append_assoc, List.singleton_append] at h
      obtain ⟨q, hparse, hiter, hend⟩ := dtIoParseProp_string p h
      refine ⟨.string p.iter, q, ?_, ⟨p.iter, rfl, ?_⟩, ?_⟩
      · rw [PropField.type, dtIoParseProp, hparse]
        rfl
      · rw [HoldsString]
        rw [PropField.encode, List.length_append, List.length_singleton] at hbytes
        exact hbytes
      · rw [DtProperty.left, hend, hiter]
        exact hrest

/-- A run of calls reads the fields in order and leaves what follows them. -/
theorem parseProps_fields (fields : List PropField) (rest : List U8)
    (hfields : ∀ field ∈ fields, field.Writable device)
    (h : p.left bus.fdt.mem = fields.flatMap (·.encode device) ++ rest) :
    ∃ vs q, parseProps bus applyGcd device (fields.map (·.type)) p s = .ok (vs, q, s) ∧
      List.Forall₂ (PropField.ReadAs bus.fdt.mem) fields vs ∧ q.left bus.fdt.mem = rest := by
  induction fields generalizing p with
  | nil => exact ⟨[], p, rfl, .nil, h⟩
  | cons field fields ih =>
      rw [List.flatMap_cons, List.append_assoc] at h
      obtain ⟨v, q, hparse, hread, hleft⟩ := dtIoParseProp_field bus applyGcd device p s
        (hfields field List.mem_cons_self) h
      obtain ⟨vs, q', hparses, hreads, hrest⟩ := ih q
        (fun field hmem => hfields field (List.mem_cons_of_mem _ hmem)) hleft
      refine ⟨v :: vs, q', ?_, .cons hread hreads, hrest⟩
      rw [List.map_cons, parseProps, hparse]
      dsimp only
      rw [hparses]

theorem StringAt.lt {mem : Nat → U8} {index iter start stop : Nat}
    (h : StringAt mem index iter start stop) : iter < stop := by
  induction index generalizing iter with
  | zero => exact h.2.lt
  | succ index ih =>
      obtain ⟨mid, hend, hrest⟩ := h
      exact Nat.lt_trans hend.lt (ih hrest)

theorem dtIoParseProp_end {type : DtValueType} (index : Nat) (hend : p.iter = p.end_)
    (hspace : type.elementCells device ≠ some 0) :
    ∃ e, (dtIoParseProp bus applyGcd device p type index s).1 = (.error e, p) := by
  have hcontract : ParseContract bus applyGcd device p type index s := by
    cases type with
    | reg => exact parseContract_entry bus applyGcd device p .reg index s
    | range => exact parseContract_entry bus applyGcd device p .range index s
    | string => exact parseContract_string bus applyGcd device p index s
    | device => exact parseContract_device bus applyGcd device p index s
    | _ => exact parseContract_number bus applyGcd device p index s rfl
  rcases h : dtIoParseProp bus applyGcd device p type index s with ⟨⟨e | v, q⟩, s'⟩
  · exact ⟨e, by rw [hcontract.failure e q s' h]⟩
  · have hread := hcontract.success v q s' h
    obtain ⟨start, hat, -⟩ := hread.element
    have hlt : p.iter < q.iter := by
      rw [ElementAt] at hat
      split at hat
      · exact hat.lt
      · next cells hcells =>
          rw [hcells, ne_eq, Option.some.injEq] at hspace
          have hpos : 0 < cells * (index + 1) :=
            Nat.mul_pos (Nat.pos_of_ne_zero hspace) (Nat.succ_pos index)
          omega
    have hle := hread.iter_le
    omega

/-- A property that was written field by field is read back field by field, and then there is
nothing left of it. -/
theorem prop_roundTrip (name : String) (fields : List PropField) {buf len : Nat}
    (hfields : ∀ field ∈ fields, field.Writable device)
    (hprop : bus.fdt.getprop device.info.fdtNode name = .ok (buf, len))
    (hbytes : BigEndian.bytesAt bus.fdt.mem buf len = fields.flatMap (·.encode device)) :
    ∃ p vs q, dtIoGetProp bus.fdt device name = .ok p ∧
      parseProps bus applyGcd device (fields.map (·.type)) p s = .ok (vs, q, s) ∧
      List.Forall₂ (PropField.ReadAs bus.fdt.mem) fields vs ∧
      ∀ type index, type.elementCells device ≠ some 0 →
        ∃ e, (dtIoParseProp bus applyGcd device q type index s).1 = (.error e, q) := by
  have hget : dtIoGetProp bus.fdt device name = .ok (DtProperty.ofBuf buf len) := by
    rw [dtIoGetProp, hprop]
  have hleft : (DtProperty.ofBuf buf len).left bus.fdt.mem =
      fields.flatMap (·.encode device) ++ [] := by
    rw [DtProperty.left, DtProperty.ofBuf, Nat.add_sub_cancel_left, hbytes, List.append_nil]
  obtain ⟨vs, q, hparse, hread, hrest⟩ :=
    parseProps_fields bus applyGcd device _ s fields [] hfields hleft
  have hend : q.iter = q.end_ := by
    have hlength := congrArg List.length hrest
    rw [DtProperty.left, BigEndian.length_bytesAt, List.length_nil] at hlength
    have hle := q.iter_le
    omega
  exact ⟨_, vs, q, hget, hparse, hread,
    fun type index hspace => dtIoParseProp_end bus applyGcd device q s index hend hspace⟩

end Parse

/-- The number `7`, the string `ab`, and a size of one cell. -/
def labelFields : List PropField :=
  [.number .u32 7, .string ⟨[97, 98], by decide⟩, .number .size 0x2000]

def labelBytes : List U8 := [0, 0, 0, 7,  97, 98, 0,  0, 0, 0x20, 0]

def labelDevice : DtDevice := .root ⟨1, 1, 0, 2, 1, 2, 1, false, 0, none, MAX_UINT64⟩

def labelBus : DtBus where
  fdt := { mem a := labelBytes.getD a 0, getprop _ _ := .ok (0, 11) }
  nodeOffsetByPhandle phandle := phandle.toNat
  nodePath _ := .ok "/"
  lookup _ _ _ := .ok 1
  handleProtocol _ := .ok labelDevice

theorem prop_roundTrip_label :
    ∃ p vs q, dtIoGetProp labelBus.fdt labelDevice "label" = .ok p ∧
      parseProps labelBus (fun _ _ _ _ _ s => (.ok (), s)) labelDevice [.u32, .string, .size] p () =
        .ok (vs, q, ()) ∧
      List.Forall₂ (PropField.ReadAs labelBus.fdt.mem) labelFields vs ∧
      ∀ type index, type.elementCells labelDevice ≠ some 0 →
        ∃ e, (dtIoParseProp labelBus (fun _ _ _ _ _ s => (.ok (), s)) labelDevice q type index
          ()).1 = (.error e, q) := by
  refine prop_roundTrip labelBus _ labelDevice () "label" labelFields ?_ rfl (by decide)
  intro field hfield
  rcases List.mem_cons.mp hfield with rfl | hfield
  · exact ⟨1, rfl, by decide⟩
  rcases List.mem_cons.mp hfield with rfl | hfield
  · exact trivial
  rcases List.mem_singleton.mp hfield with rfl
  exact ⟨1, rfl, by decide⟩

end FdtBusPkg
