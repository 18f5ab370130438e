import FdtBusPkg.Library.Terminated
import FdtBusPkg.DtBus.DevicePath
import FdtBusPkg.DtBus.ParseProp

/-!
Lists of strings in a property. `GetString` skips strings by their number and
`GetStringIndex` compares them one by one; both walk over the strings that a NUL
closes, so the index of a string and the string at an index answer to each other, and
`reg-names` with `reg`.
-/
namespace FdtBusPkg

/-- A string without its terminator, which does not occur in it. -/
abbrev CString := { s : AsciiStr // 0 ∉ s }

section Definitions

variable (mem : Nat → U8)

/-- `AsciiStrCmp` of the string at an address with another string. -/
def asciiStrCmp : Nat → AsciiStr → Int
  | first, [] => (mem first).toNat
  | first, c :: second =>
    if mem first ≠ 0 ∧ mem first = c then asciiStrCmp (first + 1) second
    else (mem first).toNat - c.toNat

/-- The loop of `DtIoGetStringIndex`. -/
def getStringIndexLoop (value : AsciiStr) (end_ iter currentIndex : Nat) : EfiResult Nat :=
  if iter < end_ then
    match h : asciiStrFindEnd mem iter end_ with
    | none => .error .notFound
    | some endOfString =>
      if asciiStrCmp mem iter value = 0 then .ok currentIndex
      else getStringIndexLoop value end_ endOfString (currentIndex + 1)
  else
    .error .notFound
termination_by end_ - iter
decreasing_by
  have hend := (asciiStrFindEnd_spec mem iter end_ endOfString (by omega) h).1.lt
  omega

end Definitions

section Device

variable {σ : Type} (fdt : Fdt) (applyGcd : ApplyGcd σ) (device : DtDevice)

def dtIoGetStringIndex (name : String) (value : CString) : EfiResult Nat :=
  match dtIoGetProp fdt device name with
  | .error e => .error e
  | .ok p => getStringIndexLoop fdt.mem value.val p.end_ p.iter 0

def dtIoGetString (name : String) (index : Nat) : EfiResult Nat :=
  match dtIoGetProp fdt device name with
  | .error e => .error e
  | .ok p => (dtIoParsePropString fdt.mem p index).1

def dtIoGetRegByName (name : CString) (s : σ) : EfiResult DtReg × σ :=
  match dtIoGetStringIndex fdt device "reg-names" name with
  | .error e => (.error e, s)
  | .ok index => dtIoGetReg fdt applyGcd device index s

/-- The strings that a property holds, each closed by a NUL. -/
def propStrings (name : String) : List AsciiStr :=
  match fdt.getprop device.info.fdtNode name with
  | .error _ => []
  | .ok (buf, len) => Terminated.strings 0 (BigEndian.bytesAt fdt.mem buf len)

end Device

/-- The string is at an address, with its terminator. -/
def HoldsString (mem : Nat → U8) (a : Nat) (s : AsciiStr) : Prop :=
  BigEndian.bytesAt mem a (s.length + 1) = s ++ [0]

section Strings

variable {mem : Nat → U8}

theorem HoldsString.unique {a : Nat} {s t : CString} (hs : HoldsString mem a s.val)
    (ht : HoldsString mem a t.val) : s = t := by
  obtain ⟨s, hs0⟩ := s
  obtain ⟨t, ht0⟩ := t
  rw [Subtype.mk.injEq]
  rw [HoldsString] at hs ht
  induction s generalizing a t with
  | nil =>
      cases t with
      | nil => rfl
      | cons d t =>
          have hfirst : mem a = 0 := (List.cons.inj hs).1
          have hd : mem a = d := (List.cons.inj ht).1
          exact absurd (hd ▸ hfirst ▸ List.mem_cons_self) ht0
  | cons c s ih =>
      have hc : mem a = c := (List.cons.inj hs).1
      cases t with
      | nil =>
          have hfirst : mem a = 0 := (List.cons.inj ht).1
          exact absurd (hc ▸ hfirst ▸ List.mem_cons_self) hs0
      | cons d t =>
          have hd : mem a = d := (List.cons.inj ht).1
          have hrest := ih (a := a + 1) (fun h => hs0 (List.mem_cons_of_mem c h))
            (List.cons.inj hs).2 t (fun h => ht0 (List.mem_cons_of_mem d h)) (List.cons.inj ht).2
          rw [hrest, ← hc, ← hd]

variable (mem)

theorem asciiStrCmp_eq_zero (a : Nat) (s : CString) :
    asciiStrCmp mem a s.val = 0 ↔ HoldsString mem a s.val := by
  obtain ⟨s, hs⟩ := s
  dsimp only
  induction s generalizing a with
  | nil =>
      have hzero : mem a = 0 ↔ ((mem a).toNat : Int) = 0 := by
        rw [← BitVec.toNat_inj, Int.natCast_eq_zero]
        rfl
      rw [asciiStrCmp, ← hzero, HoldsString]
      simp [BigEndian.bytesAt]
  | cons c s ih =>
      have hc : c ≠ 0 := fun h => hs (h ▸ List.mem_cons_self)
      have hsplit : HoldsString mem a (c :: s) ↔ mem a = c ∧ HoldsString mem (a + 1) s := by
        simp [HoldsString, BigEndian.bytesAt]
      rw [asciiStrCmp, hsplit]
      split
      · next hsame =>
          rw [ih (a + 1) fun h => hs (List.mem_cons_of_mem c h)]
          exact (and_iff_right hsame.2).symm
      · next hdiffer =>
          have hne : mem a ≠ c := fun heq => hdiffer ⟨heq ▸ hc, heq⟩
          refine iff_of_false (fun hdiff => hne ?_) (fun h => hne h.1)
          apply BitVec.eq_of_toNat_eq
          omega

theorem bytesAt_eq_append {a n : Nat} {xs ys : List U8}
    (h : BigEndian.bytesAt mem a n = xs ++ ys) :
    n = xs.length + ys.length ∧ BigEndian.bytesAt mem a xs.length = xs ∧
      BigEndian.bytesAt mem (a + xs.length) ys.length = ys := by
  have hlength : n = xs.length + ys.length := by
    have := congrArg List.length h
    rwa [BigEndian.length_bytesAt, List.length_append] at this
  rw [hlength, BigEndian.bytesAt_add] at h
  exact ⟨hlength, List.append_inj h (BigEndian.length_bytesAt mem a _)⟩

theorem asciiStrFindEndLoop_none {left iter : Nat}
    (h : 0 ∉ BigEndian.bytesAt mem iter left) : asciiStrFindEndLoop mem left iter = none := by
  induction left generalizing iter with
  | zero => rfl
  | succ left ih =>
      rw [BigEndian.bytesAt, List.mem_cons, not_or] at h
      rw [asciiStrFindEndLoop, if_neg (Ne.symm h.1)]
      exact ih h.2

theorem asciiStrFindEndLoop_some {left iter : Nat} {s rest : AsciiStr} (hs : 0 ∉ s)
    (h : BigEndian.bytesAt mem iter left = s ++ 0 :: rest) :
    asciiStrFindEndLoop mem left iter = some (iter + s.length + 1) := by
  induction s generalizing left iter with
  | nil =>
      cases left with
      | zero => cases h
      | succ left =>
          rw [asciiStrFindEndLoop, if_pos (List.cons.inj h).1]
          rfl
  | cons c s ih =>
      cases left with
      | zero => cases h
      | succ left =>
          have hc : mem iter ≠ 0 := by
            intro hzero
            rw [(List.cons.inj h).1] at hzero
            exact hs (hzero ▸ List.mem_cons_self)
          rw [asciiStrFindEndLoop, if_neg hc,
            ih (fun h => hs (List.mem_cons_of_mem c h)) (List.cons.inj h).2, List.length_cons]
          congr 1
          omega

/-- The strings between the cursor and the end of a property. -/
def stringsBetween (iter end_ : Nat) : List AsciiStr :=
  Terminated.strings 0 (BigEndian.bytesAt mem iter (end_ - iter))

/-- `AsciiStrFindEnd` closes the first of the strings that are left, if there is one. -/
theorem asciiStrFindEnd_cases (iter end_ : Nat) :
    (asciiStrFindEnd mem iter end_ = none ∧ stringsBetween mem iter end_ = []) ∨
      ∃ s : CString, iter < end_ ∧
        asciiStrFindEnd mem iter end_ = some (iter + s.val.length + 1) ∧
        HoldsString mem iter s.val ∧
        stringsBetween mem iter end_ =
          s.val :: stringsBetween mem (iter + s.val.length + 1) end_ := by
  by_cases hmem : 0 ∈ BigEndian.bytesAt mem iter (end_ - iter)
  · obtain ⟨s, rest, hbytes, hs⟩ := List.eq_append_cons_of_mem hmem
    have hbytes' : BigEndian.bytesAt mem iter (end_ - iter) = (s ++ [0]) ++ rest := by
      rw [hbytes, List.append_assoc, List.singleton_append]
    obtain ⟨hlength, hstring, hrest⟩ := bytesAt_eq_append mem hbytes'
    rw [List.length_append, List.length_singleton] at hlength hstring hrest
    have hleft : end_ - (iter + s.length + 1) = rest.length := by omega
    refine Or.inr ⟨⟨s, hs⟩, by omega, asciiStrFindEndLoop_some mem hs hbytes, hstring, ?_⟩
    rw [stringsBetween, stringsBetween, hbytes, Terminated.strings_append_cons 0 s rest hs, hleft,
      Nat.add_assoc, hrest]
  · exact Or.inl ⟨asciiStrFindEndLoop_none mem hmem, Terminated.strings_of_not_mem 0 _ hmem⟩

/-- The loop of `DtIoParsePropString` stops at the string with the index, and at no other
place. -/
theorem parsePropStringLoop_strings (end_ index iter : Nat) :
    (parsePropStringLoop mem end_ index iter = none ∧
        (stringsBetween mem iter end_)[index]? = none) ∨
      ∃ start, ∃ s : CString,
        parsePropStringLoop mem end_ index iter = some (start, start + s.val.length + 1) ∧
        HoldsString mem start s.val ∧ (stringsBetween mem iter end_)[index]? = some s.val := by
  induction index generalizing iter with
  | zero =>
      rw [parsePropStringLoop]
      obtain ⟨hnone, hstrings⟩ | ⟨s, hlt, hsome, hheld, hstrings⟩ :=
        asciiStrFindEnd_cases mem iter end_
      · rw [hnone, hstrings, ite_self]
        exact Or.inl ⟨rfl, rfl⟩
      · rw [if_pos hlt, hsome, hstrings]
        exact Or.inr ⟨iter, s, rfl, hheld, rfl⟩
  | succ index ih =>
      rw [parsePropStringLoop]
      obtain ⟨hnone, hstrings⟩ | ⟨s, hlt, hsome, -, hstrings⟩ :=
        asciiStrFindEnd_cases mem iter end_
      · rw [hnone, hstrings, ite_self]
        exact Or.inl ⟨rfl, rfl⟩
      · rw [if_pos hlt, hsome, hstrings, List.getElem?_cons_succ]
        exact ih (iter + s.val.length + 1)

/-- The loop of `DtIoGetStringIndex` finds the first string with the value. -/
theorem getStringIndexLoop_strings (value : CString) (end_ iter currentIndex : Nat) :
    getStringIndexLoop mem value.val end_ iter currentIndex =
      match (stringsBetween mem iter end_).idxOf? value.val with
      | none => .error .notFound
      | some index => .ok (currentIndex + index) := by
  induction hleft : end_ - iter using Nat.strongRecOn generalizing iter currentIndex with
  | ind left ih =>
      subst hleft
      rw [getStringIndexLoop]
      obtain ⟨hnone, hstrings⟩ | ⟨s, hlt, hsome, hheld, hstrings⟩ :=
        asciiStrFindEnd_cases mem iter end_
      · rw [hstrings, List.idxOf?_nil]
        split
        · split
          · rfl
          · next endOfString hsome =>
              rw [hnone] at hsome
              exact nomatch hsome
        · rfl
      · rw [if_pos hlt, hstrings, List.idxOf?_cons]
        split
        · next hnone =>
            rw [hsome] at hnone
            exact nomatch hnone
        · next endOfString hfound =>
            have hend : endOfString = iter + s.val.length + 1 :=
              Option.some.inj (hfound.symm.trans hsome)
            subst hend
            by_cases hsame : s = value
            · subst hsame
              rw [if_pos ((asciiStrCmp_eq_zero mem iter s).mpr hheld),
                if_pos (beq_self_eq_true s.val)]
              rfl
            · have hdiffer : asciiStrCmp mem iter value.val ≠ 0 := fun h =>
                hsame (hheld.unique ((asciiStrCmp_eq_zero mem iter value).mp h))
              have hne : (s.val == value.val) ≠ true := by
                simpa using fun h => hsame (Subtype.ext h)
              rw [if_neg hdiffer, if_neg hne,
                ih _ (by omega) (iter + s.val.length + 1) (currentIndex + 1) rfl]
              cases (stringsBetween mem (iter + s.val.length + 1) end_).idxOf? value.val with
              | none => rfl
              | some index =>
                  simp only [Option.map_some, Except.ok.injEq]
                  omega

end Strings

section Device

variable (fdt : Fdt) (device : DtDevice) (name : String)

theorem propStrings_of_ok {p : DtProperty} (hp : dtIoGetProp fdt device name = .ok p) :
    propStrings fdt device name = stringsBetween fdt.mem p.iter p.end_ := by
  rw [dtIoGetProp] at hp
  rw [propStrings, stringsBetween]
  rcases hget : fdt.getprop device.info.fdtNode name with e | ⟨buf, len⟩
  · rw [hget] at hp
    cases e <;> exact nomatch hp
  · rw [hget] at hp
    have hp := Except.ok.inj hp
    subst hp
    simp only [DtProperty.ofBuf, Nat.add_sub_cancel_left]

theorem propStrings_of_error {e : EfiError} (hp : dtIoGetProp fdt device name = .error e) :
    propStrings fdt device name = [] := by
  rw [dtIoGetProp] at hp
  rw [propStrings]
  rcases hget : fdt.getprop device.info.fdtNode name with e | ⟨buf, len⟩
  · rfl
  · rw [hget] at hp
    exact nomatch hp

theorem dtIoGetStringIndex_iff (value : CString) (index : Nat) :
    dtIoGetStringIndex fdt device name value = .ok index ↔
      (propStrings fdt device name).idxOf? value.val = some index := by
  rw [dtIoGetStringIndex]
  cases hp : dtIoGetProp fdt device name with
  | error e =>
      rw [propStrings_of_error fdt device name hp]
      exact iff_of_false nofun nofun
  | ok p =>
      dsimp only
      rw [propStrings_of_ok fdt device name hp, getStringIndexLoop_strings]
      cases (stringsBetween fdt.mem p.iter p.end_).idxOf? value.val with
      | none => exact iff_of_false nofun nofun
      | some found => simp

theorem dtIoGetString_cases (index : Nat) :
    ((∃ e, dtIoGetString fdt device name index = .error e) ∧
        (propStrings fdt device name)[index]? = none) ∨
      ∃ start, ∃ s : CString, dtIoGetString fdt device name index = .ok start ∧
        HoldsString fdt.mem start s.val ∧
        (propStrings fdt device name)[index]? = some s.val := by
  rw [dtIoGetString]
  cases hp : dtIoGetProp fdt device name with
  | error e =>
      rw [propStrings_of_error fdt device name hp]
      exact Or.inl ⟨⟨e, rfl⟩, rfl⟩
  | ok p =>
      dsimp only
      rw [propStrings_of_ok fdt device name hp, dtIoParsePropString]
      obtain ⟨hnone, hstrings⟩ | ⟨start, s, hsome, hheld, hstrings⟩ :=
        parsePropStringLoop_strings fdt.mem p.end_ index p.iter
      · refine Or.inl ⟨⟨.notFound, ?_⟩, hstrings⟩
        split
        · rfl
        · next h =>
            rw [hnone] at h
            exact nomatch h
      · refine Or.inr ⟨start, s, ?_, hheld, hstrings⟩
        split
        · next h =>
            rw [hsome] at h
            exact nomatch h
        · next start' stop h =>
            rw [hsome] at h
            rw [(Prod.mk.inj (Option.some.inj h)).1]

/-- A string equal to the value is found at an index exactly when the property holds it
there. -/
theorem dtIoGetString_value_iff (value : CString) (index : Nat) :
    (∃ start, dtIoGetString fdt device name index = .ok start ∧
        HoldsString fdt.mem start value.val) ↔
      (propStrings fdt device name)[index]? = some value.val := by
  obtain ⟨⟨e, herror⟩, hnone⟩ | ⟨start, s, hok, hheld, hsome⟩ :=
    dtIoGetString_cases fdt device name index
  · rw [herror, hnone]
    exact iff_of_false (fun h => nomatch h.choose_spec.1) nofun
  · rw [hok, hsome, Option.some.injEq]
    constructor
    · rintro ⟨other, hother, hvalue⟩
      rw [← Except.ok.inj hother] at hvalue
      rw [hheld.unique hvalue]
    · intro heq
      exact ⟨start, rfl, heq ▸ hheld⟩

end Device

/-- The two directions of a lookup in a list of strings, and the register of a name. -/
structure StringListExact (fdt : Fdt) (device : DtDevice) : Prop where
  index_iff (name : String) (value : CString) (index : Nat) :
    dtIoGetStringIndex fdt device name value = .ok index ↔
      IsLeast {j | ∃ start, dtIoGetString fdt device name j = .ok start ∧
        HoldsString fdt.mem start value.val} index
  string_iff (name : String) (index : Nat) :
    (∃ start, dtIoGetString fdt device name index = .ok start) ↔
      index < (propStrings fdt device name).length
  string (name : String) (index start : Nat)
    (h : dtIoGetString fdt device name index = .ok start) :
    ∃ s, (propStrings fdt device name)[index]? = some s ∧ HoldsString fdt.mem start s
  reg {σ : Type} (applyGcd : ApplyGcd σ) (value : CString) (s : σ) (index : Nat)
    (h : IsLeast {j | ∃ start, dtIoGetString fdt device "reg-names" j = .ok start ∧
      HoldsString fdt.mem start value.val} index) :
    dtIoGetRegByName fdt applyGcd device value s = dtIoGetReg fdt applyGcd device index s
  noReg {σ : Type} (applyGcd : ApplyGcd σ) (value : CString) (s : σ)
    (h : ∀ j start, dtIoGetString fdt device "reg-names" j = .ok start →
      ¬ HoldsString fdt.mem start value.val) :
    ∃ e, dtIoGetStringIndex fdt device "reg-names" value = .error e ∧
      dtIoGetRegByName fdt applyGcd device value s = (.error e, s)

/-- Looking up the index of a string and the string at an index are inverse to each
other, and a register is found by name at the index of the name. -/
theorem stringList_exact (fdt : Fdt) (device : DtDevice) : StringListExact fdt device := by
  have hindex (name : String) (value : CString) (index : Nat) :
      dtIoGetStringIndex fdt device name value = .ok index ↔
        IsLeast {j | ∃ start, dtIoGetString fdt device name j = .ok start ∧
          HoldsString fdt.mem start value.val} index := by
    rw [dtIoGetStringIndex_iff, Terminated.idxOf?_eq_some_iff_isLeast]
    simp only [dtIoGetString_value_iff]
  refine ⟨hindex, fun name index => ?_, fun name index start hstart => ?_, ?_, ?_⟩
  · obtain ⟨⟨e, herror⟩, hnone⟩ | ⟨start, s, hok, -, hsome⟩ :=
      dtIoGetString_cases fdt device name index
    · rw [herror]
      refine iff_of_false (fun h => nomatch h.choose_spec) ?_
      rw [Nat.not_lt]
      exact List.getElem?_eq_none_iff.mp hnone
    · exact iff_of_true ⟨start, hok⟩ (List.getElem?_eq_some_iff.mp hsome).choose
  · obtain ⟨⟨e, herror⟩, -⟩ | ⟨start', s, hok, hheld, hsome⟩ :=
      dtIoGetString_cases fdt device name index
    · rw [herror] at hstart
      exact nomatch hstart
    · rw [hok] at hstart
      exact ⟨s.val, hsome, Except.ok.inj hstart ▸ hheld⟩
  · intro σ applyGcd value s index hleast
    rw [dtIoGetRegByName, (hindex "reg-names" value index).mpr hleast]
  · intro σ applyGcd value s hnone
    cases hfound : dtIoGetStringIndex fdt device "reg-names" value with
    | error e => exact ⟨e, rfl, by rw [dtIoGetRegByName, hfound]⟩
    | ok index =>
        obtain ⟨⟨start, hok, hheld⟩, -⟩ := (hindex "reg-names" value index).mp hfound
        exact absurd hheld (hnone index start hok)

end FdtBusPkg
