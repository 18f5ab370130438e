import FdtBusPkg.DtBus.Environment
import FdtBusPkg.DtBus.IndexedParse
import FdtBusPkg.Library.BigEndian

/-!
`ParseProp` over all value types, and the contract that all of them keep: only
bytes between the cursor and the end of the property are read, the cursor moves
over exactly the elements parsed, and a failure leaves it where it was.
-/
namespace FdtBusPkg

/-- `EFI_DT_VALUE_TYPE`. -/
inductive DtValueType
  | u32
  | u64
  | u128
  | busAddress
  | childBusAddress
  | size
  | childSize
  | reg
  | range
  | string
  | device
  deriving DecidableEq, Repr

/-- What `Buffer` receives; a string is returned by its address. -/
inductive DtValue
  | u32 (v : U32)
  | u64 (v : U64)
  | address (v : DtBusAddress)
  | size (v : DtSize)
  | reg (r : DtReg)
  | range (r : DtRange)
  | string (s : Nat)
  | device (h : EfiHandle)
  deriving DecidableEq, Repr

section Strings

variable (mem : Nat → U8)

/-- The loop of `AsciiStrFindEnd` over the bytes left. -/
def asciiStrFindEndLoop : Nat → Nat → Option Nat
  | 0, _ => none
  | left + 1, iter => if mem iter = 0 then some (iter + 1) else asciiStrFindEndLoop left (iter + 1)

def asciiStrFindEnd (start end_ : Nat) : Option Nat :=
  asciiStrFindEndLoop mem (end_ - start) start

/-- The loop of `DtIoParsePropString`; the first argument is `Index - CurrentIndex`. The
string of interest and its end. -/
def parsePropStringLoop (end_ : Nat) : Nat → Nat → Option (Nat × Nat)
  | left, iter =>
    if iter < end_ then
      match asciiStrFindEnd mem iter end_ with
      | none => none
      | some endOfString =>
        match left with
        | 0 => some (iter, endOfString)
        | left + 1 => parsePropStringLoop end_ left endOfString
    else
      none

/-- `stop` is the byte after the terminator of the string at `start`. -/
structure StringEnd (start stop : Nat) : Prop where
  lt : start < stop
  nul : mem (stop - 1) = 0
  before (a : Nat) (hlow : start ≤ a) (hhigh : a < stop - 1) : mem a ≠ 0

/-- The string at `iter` with the given index is `[start, stop)`, terminator included. -/
def StringAt : Nat → Nat → Nat → Nat → Prop
  | 0, iter, start, stop => start = iter ∧ StringEnd mem iter stop
  | index + 1, iter, start, stop => ∃ mid, StringEnd mem iter mid ∧ StringAt index mid start stop

theorem asciiStrFindEndLoop_spec (left iter stop : Nat)
    (h : asciiStrFindEndLoop mem left iter = some stop) :
    StringEnd mem iter stop ∧ stop ≤ iter + left := by
  induction left generalizing iter with
  | zero => exact absurd h (by simp [asciiStrFindEndLoop])
  | succ left ih =>
      rw [asciiStrFindEndLoop] at h
      split at h
      · next hnul =>
        rw [← Option.some.inj h]
        exact ⟨⟨Nat.lt_succ_self iter, hnul, fun a hlow hhigh => by omega⟩, by omega⟩
      · next hnul =>
        obtain ⟨hend, hle⟩ := ih (iter + 1) h
        have hlt := hend.lt
        refine ⟨⟨by omega, hend.nul, fun a hlow hhigh => ?_⟩, by omega⟩
        by_cases ha : a = iter
        · rw [ha]
          exact hnul
        · exact hend.before a (by omega) hhigh

theorem asciiStrFindEnd_spec (start end_ stop : Nat) (hle : start ≤ end_)
    (h : asciiStrFindEnd mem start end_ = some stop) :
    StringEnd mem start stop ∧ stop ≤ end_ := by
  obtain ⟨hend, hstop⟩ := asciiStrFindEndLoop_spec mem _ _ _ h
  exact ⟨hend, by omega⟩

theorem parsePropStringLoop_spec (end_ index iter start stop : Nat)
    (h : parsePropStringLoop mem end_ index iter = some (start, stop)) :
    StringAt mem index iter start stop ∧ iter ≤ start ∧ start < stop ∧ stop ≤ end_ := by
  induction index generalizing iter with
  | zero =>
      rw [parsePropStringLoop] at h
      split at h
      · split at h
        · exact absurd h (by simp)
        · next hlt _ endOfString hfind =>
          obtain ⟨rfl, rfl⟩ := Prod.mk.inj (Option.some.inj h)
          obtain ⟨hend, hle⟩ := asciiStrFindEnd_spec mem _ _ _ (Nat.le_of_lt hlt) hfind
          exact ⟨⟨rfl, hend⟩, Nat.le_refl _, hend.lt, hle⟩
      · exact absurd h (by simp)
  | succ index ih =>
      rw [parsePropStringLoop] at h
      split at h
      · split at h
        · exact absurd h (by simp)
        · next hlt _ endOfString hfind =>
          obtain ⟨hend, -⟩ := asciiStrFindEnd_spec mem _ _ _ (Nat.le_of_lt hlt) hfind
          obtain ⟨hrest, hle, hlast⟩ := ih endOfString h
          have hmid := hend.lt
          exact ⟨⟨endOfString, hend, hrest⟩, by omega, hlast⟩
      · exact absurd h (by simp)

theorem asciiStrFindEndLoop_congr (mem' : Nat → U8) (left iter : Nat)
    (h : BigEndian.AgreeOn mem mem' iter (iter + left)) :
    asciiStrFindEndLoop mem left iter = asciiStrFindEndLoop mem' left iter := by
  induction left generalizing iter with
  | zero => rfl
  | succ left ih =>
      rw [asciiStrFindEndLoop, asciiStrFindEndLoop, h iter (Nat.le_refl _) (by omega),
        ih (iter + 1) (BigEndian.agreeOn_sub h (by omega) (by omega))]

theorem parsePropStringLoop_congr (mem' : Nat → U8) (end_ index iter : Nat)
    (h : BigEndian.AgreeOn mem mem' iter end_) :
    parsePropStringLoop mem end_ index iter = parsePropStringLoop mem' end_ index iter := by
  induction index generalizing iter with
  | zero =>
      rw [parsePropStringLoop, parsePropStringLoop]
      split
      · rw [asciiStrFindEnd, asciiStrFindEnd, asciiStrFindEndLoop_congr mem mem' _ _
          (BigEndian.agreeOn_sub h (Nat.le_refl _) (by omega))]
      · rfl
  | succ index ih =>
      rw [parsePropStringLoop, parsePropStringLoop]
      split
      · next hlt =>
        have hfind : asciiStrFindEnd mem iter end_ = asciiStrFindEnd mem' iter end_ := by
          rw [asciiStrFindEnd, asciiStrFindEnd, asciiStrFindEndLoop_congr mem mem' _ _
            (BigEndian.agreeOn_sub h (Nat.le_refl _) (by omega))]
        rw [hfind]
        split
        · rfl
        · next endOfString hsome =>
          have hmid := (asciiStrFindEnd_spec mem' _ _ _ (Nat.le_of_lt hlt) hsome).1.lt
          exact ih endOfString (BigEndian.agreeOn_sub h (by omega) (Nat.le_refl _))
      · rfl

end Strings

def DtProperty.moveTo (p : DtProperty) (iter : Nat) (hlow : p.iter ≤ iter)
    (hhigh : iter ≤ p.end_) : DtProperty where
  begin_ := p.begin_
  iter := iter
  end_ := p.end_
  begin_le := Nat.le_trans p.begin_le hlow
  iter_le := hhigh

def dtIoParsePropString (mem : Nat → U8) (p : DtProperty) (index : Nat) :
    EfiResult Nat × DtProperty :=
  match h : parsePropStringLoop mem p.end_ index p.iter with
  | none => (.error .notFound, p)
  | some (start, stop) =>
    have hspec := (parsePropStringLoop_spec mem _ _ _ _ _ h).2
    (.ok start, p.moveTo stop (by omega) hspec.2.2)

section ParseProp

variable {σ : Type} (bus : DtBus) (applyGcd : ApplyGcd σ)

/-- `DtIoParseProp` of a device, with a property and a buffer. -/
def dtIoParseProp (device : DtDevice) (p : DtProperty) (type : DtValueType) (index : Nat)
    (s : σ) : (EfiResult DtValue × DtProperty) × σ :=
  match type with
  | .u32 =>
    let r := dtIoParsePropU32 bus.fdt.mem p index
    ((r.1.map .u32, r.2), s)
  | .u64 =>
    let r := dtIoParsePropU64 bus.fdt.mem p index
    ((r.1.map .u64, r.2), s)
  | .u128 => ((.error .unsupported, p), s)
  | .busAddress =>
    let r := dtIoParsePropBusAddress bus.fdt.mem device p index
    ((r.1.map .address, r.2), s)
  | .childBusAddress =>
    let r := dtIoParsePropChildBusAddress bus.fdt.mem device p index
    ((r.1.map .address, r.2), s)
  | .size =>
    let r := dtIoParsePropSize bus.fdt.mem device p index
    ((r.1.map .size, r.2), s)
  | .childSize =>
    let r := dtIoParsePropChildSize bus.fdt.mem device p index
    ((r.1.map .size, r.2), s)
  | .reg =>
    let r := dtIoParsePropReg bus.fdt applyGcd device p index s
    ((r.1.1.map .reg, r.1.2), r.2)
  | .range =>
    let r := dtIoParsePropRange bus.fdt applyGcd device p index s
    ((r.1.1.map .range, r.1.2), r.2)
  | .string =>
    let r := dtIoParsePropString bus.fdt.mem p index
    ((r.1.map .string, r.2), s)
  | .device =>
    let r := dtIoParsePropDevice bus device p index
    ((r.1.map .device, r.2), s)

end ParseProp

end FdtBusPkg
