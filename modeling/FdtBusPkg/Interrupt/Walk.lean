import FdtBusPkg.Interrupt.MapRows

/-!
Interrupt resolution against the `interrupt-map` rules, over whole walks. One
nexus step follows the rules exactly when the row the code accepts lies within
the mask and the register of the child can be obtained; a walk whose steps do
ends where the rules lead.
-/
namespace FdtBusPkg

/-- What the rules read at a nexus: the rows, the masked unit address of the
child and the mask of the specifier. -/
structure NexusTable where
  rows : List MapRow
  malformed : Option EfiError
  maskedUnitAddress : DtBusAddress
  mask : DtProperty

/-- The table at a state of the walk; `none` when the nexus lacks a property or
the child a unit address. -/
def nexusTable (bus : DtBus) (st : InterruptState) : Option NexusTable :=
  match dtIoGetProp bus.fdt st.nexus "interrupt-map",
      dtIoGetProp bus.fdt st.nexus "interrupt-map-mask" with
  | .ok map, .ok mask =>
    let (rows, malformed) :=
      mapRows bus st.child st.nexus st.interruptCells (map.end_ - map.iter) map
    if st.child.info.addressCells.val = 0 then
      some ⟨rows, malformed, 0#128, mask⟩
    else
      match firstRegBusAddress bus.fdt st.child,
          dtIoParsePropBusAddress bus.fdt.mem st.child mask 0 with
      | some unitAddress, (.ok maskAddress, mask) =>
        some ⟨rows, malformed, maskAddress &&& unitAddress, mask⟩
      | _, _ => none
  | _, _ => none

def firstMatch (bus : DtBus) (st : InterruptState) (t : NexusTable) : Option MapRow :=
  t.rows.find? (fun row =>
    RowMatches bus st.child st.interruptCells st.interrupt t.mask t.maskedUnitAddress row)

def firstAccepted (bus : DtBus) (st : InterruptState) (t : NexusTable) : Option MapRow :=
  t.rows.find?
    (rowAccepted bus st.child st.interruptCells st.interrupt t.mask t.maskedUnitAddress)

/-- The walk after a row: the previous nexus is the node translated next. -/
def followRow (st : InterruptState) (m : NexusMatch) : InterruptState :=
  ⟨st.nexus, m.interruptParentIo, m.interruptParentHandle, m.interruptCells, m.interrupt⟩

/-- Where the rules lead: at each nexus the first matching row, up to an
interrupt controller. -/
inductive RulesWalk (bus : DtBus) : InterruptState → EfiHandle × DtProperty → Prop
  | controller (st : InterruptState)
      (hcontroller : isInterruptController bus.fdt st.nexus = true) :
      RulesWalk bus st (st.parentHandle, st.interrupt)
  | nexus (st : InterruptState) (t : NexusTable) (row : MapRow)
      (result : EfiHandle × DtProperty)
      (hnexus : isInterruptController bus.fdt st.nexus = false)
      (htable : nexusTable bus st = some t) (hrow : firstMatch bus st t = some row)
      (hrest : RulesWalk bus (followRow st row.target) result) :
      RulesWalk bus st result

/-- The rows of a nexus that has both properties, and the error of the first malformed one. -/
def nexusRows (bus : DtBus) (st : InterruptState) : Option (List MapRow × Option EfiError) :=
  match dtIoGetProp bus.fdt st.nexus "interrupt-map",
      dtIoGetProp bus.fdt st.nexus "interrupt-map-mask" with
  | .ok map, .ok _ =>
    some (mapRows bus st.child st.nexus st.interruptCells (map.end_ - map.iter) map)
  | _, _ => none

/-- Every row of the nexus is well formed and none of them matches. Where there is no masked
unit address to compare with, none does. -/
def NoRowMatches (bus : DtBus) (st : InterruptState) : Prop :=
  ∃ rows, nexusRows bus st = some (rows, none) ∧
    ∀ t, nexusTable bus st = some t → firstMatch bus st t = none

section Nexus

variable {σ : Type} (bus : DtBus) (applyGcd : ApplyGcd σ) (st : InterruptState) (s : σ)

/-- The register that holds the child's unit address can be obtained. -/
def UnitReadable : Prop :=
  st.child.info.addressCells.val = 0 ∨
    ∃ reg, (dtIoGetReg bus.fdt applyGcd st.child 0 s).1 = .ok reg

def translateStep : EfiResult NexusMatch :=
  (translateWithInterruptNexus bus applyGcd st.child st.nexus st.interruptCells
    st.interrupt s).1

/-- The step takes the first matching row, and reports that none matches. -/
def StepFollowsRules : Prop :=
  (∀ m, translateStep bus applyGcd st s = .ok m →
      ∃ t row, nexusTable bus st = some t ∧ firstMatch bus st t = some row ∧
        row.target = m) ∧
    (NoRowMatches bus st → translateStep bus applyGcd st s = .error .notFound)

/-- The first row the code accepts, if any, lies within the mask. -/
def AcceptedWithinMask : Prop :=
  ∀ t row, nexusTable bus st = some t → firstAccepted bus st t = some row →
    RowWithinMask bus st.interruptCells t.mask row

/-- The register of the child can be obtained, or `GetReg` itself reports `EFI_NOT_FOUND`. -/
def UnitReported : Prop :=
  UnitReadable bus applyGcd st s ∨
    (dtIoGetReg bus.fdt applyGcd st.child 0 s).1 = .error .notFound

/-- What a step asks of its nexus: where the register of the child can be obtained, the
accepted row lies within the mask, and where no row matches, `GetReg` is no other error. -/
structure StepConditions : Prop where
  accepted (hunit : UnitReadable bus applyGcd st s) : AcceptedWithinMask bus st
  reported (hnone : NoRowMatches bus st) : UnitReported bus applyGcd st s

theorem translateStep_eq (t : NexusTable) (htable : nexusTable bus st = some t)
    (hunit : UnitReadable bus applyGcd st s) :
    translateStep bus applyGcd st s =
      match firstAccepted bus st t with
      | some row => .ok row.target
      | none =>
        match t.malformed with
        | none => .error .notFound
        | some e => .error e := by
  unfold nexusTable at htable
  unfold translateStep translateWithInterruptNexus
  cases hmap : dtIoGetProp bus.fdt st.nexus "interrupt-map" with
  | error e => simp [hmap] at htable
  | ok map =>
      cases hmask : dtIoGetProp bus.fdt st.nexus "interrupt-map-mask" with
      | error e => simp [hmap, hmask] at htable
      | ok mask =>
          simp only [hmap, hmask] at htable
          unfold maskedChildUnitAddress
          by_cases hcells : st.child.info.addressCells.val = 0
          · simp only [hcells, ↓reduceIte, Option.some.injEq] at htable ⊢
            rw [nexusRowLoop_eq, ← htable]
            rfl
          · obtain ⟨reg, hreg⟩ := hunit.resolve_left hcells
            have hfirst := busBase_dtIoGetReg bus.fdt applyGcd st.child s reg hreg
            rcases hget : dtIoGetReg bus.fdt applyGcd st.child 0 s with ⟨result, s'⟩
            rw [hget] at hreg
            simp only at hreg
            subst hreg
            simp only [hcells, ↓reduceIte, hfirst] at htable ⊢
            rcases hparse : dtIoParsePropBusAddress bus.fdt.mem st.child mask 0 with
              ⟨e | maskAddress, mask'⟩
            · simp [hparse] at htable
            · simp only [hparse, Option.some.injEq] at htable ⊢
              rw [nexusRowLoop_eq, ← htable]
              rfl

theorem nexusRows_of_table (t : NexusTable) (htable : nexusTable bus st = some t) :
    nexusRows bus st = some (t.rows, t.malformed) := by
  unfold nexusTable at htable
  unfold nexusRows
  cases hmap : dtIoGetProp bus.fdt st.nexus "interrupt-map" with
  | error e => simp [hmap] at htable
  | ok map =>
      cases hmask : dtIoGetProp bus.fdt st.nexus "interrupt-map-mask" with
      | error e => simp [hmap, hmask] at htable
      | ok mask =>
          simp only [hmap, hmask] at htable
          dsimp only
          split at htable
          · rw [← Option.some.inj htable]
          · split at htable
            · rw [← Option.some.inj htable]
            · simp at htable

/-- A step that cannot have the masked unit address ends with that error. -/
theorem translateStep_unread {rows : List MapRow × Option EfiError}
    (hrows : nexusRows bus st = some rows) :
    ∃ map mask, dtIoGetProp bus.fdt st.nexus "interrupt-map" = .ok map ∧
      dtIoGetProp bus.fdt st.nexus "interrupt-map-mask" = .ok mask ∧
      ∀ e, (maskedChildUnitAddress bus applyGcd st.child mask s).1 = .error e →
        translateStep bus applyGcd st s = .error e := by
  unfold nexusRows at hrows
  unfold translateStep translateWithInterruptNexus
  cases hmap : dtIoGetProp bus.fdt st.nexus "interrupt-map" with
  | error e => simp [hmap] at hrows
  | ok map =>
      cases hmask : dtIoGetProp bus.fdt st.nexus "interrupt-map-mask" with
      | error e => simp [hmap, hmask] at hrows
      | ok mask =>
          refine ⟨map, mask, rfl, rfl, fun e herror => ?_⟩
          dsimp only
          rcases hread : maskedChildUnitAddress bus applyGcd st.child mask s with ⟨result, s'⟩
          rw [hread] at herror
          simp only at herror
          subst herror
          rfl

theorem translateStep_unreadable {rows : List MapRow × Option EfiError}
    (hrows : nexusRows bus st = some rows) (hcells : st.child.info.addressCells.val ≠ 0)
    (e : EfiError) (hreg : (dtIoGetReg bus.fdt applyGcd st.child 0 s).1 = .error e) :
    translateStep bus applyGcd st s = .error e := by
  obtain ⟨map, mask, -, -, hunread⟩ := translateStep_unread bus applyGcd st s hrows
  refine hunread e ?_
  rcases hget : dtIoGetReg bus.fdt applyGcd st.child 0 s with ⟨result, s'⟩
  rw [hget] at hreg
  simp only at hreg
  subst hreg
  simp only [maskedChildUnitAddress, hcells, ↓reduceIte, hget]

/-- A mask without the cells of the unit address is reported as `EFI_NOT_FOUND`. -/
theorem translateStep_unmasked {rows : List MapRow × Option EfiError}
    (hrows : nexusRows bus st = some rows) (hnone : nexusTable bus st = none)
    (hunit : UnitReadable bus applyGcd st s) :
    translateStep bus applyGcd st s = .error .notFound := by
  obtain ⟨map, mask, hmap, hmask, hunread⟩ := translateStep_unread bus applyGcd st s hrows
  refine hunread .notFound ?_
  unfold nexusTable at hnone
  simp only [hmap, hmask] at hnone
  unfold maskedChildUnitAddress
  by_cases hcells : st.child.info.addressCells.val = 0
  · simp [hcells] at hnone
  · obtain ⟨reg, hreg⟩ := hunit.resolve_left hcells
    have hfirst := busBase_dtIoGetReg bus.fdt applyGcd st.child s reg hreg
    rcases hget : dtIoGetReg bus.fdt applyGcd st.child 0 s with ⟨result, s'⟩
    rw [hget] at hreg
    simp only at hreg
    subst hreg
    simp only [hcells, ↓reduceIte, hfirst] at hnone ⊢
    have herror := dtIoParsePropBusAddress_error bus.fdt.mem mask st.child 0
    rcases hparse : dtIoParsePropBusAddress bus.fdt.mem st.child mask 0 with
      ⟨e | maskAddress, mask'⟩
    · rw [herror e (by rw [hparse])]
    · simp [hparse] at hnone

theorem nexusTable_of_translateStep (m : NexusMatch)
    (h : translateStep bus applyGcd st s = .ok m) :
    (∃ t, nexusTable bus st = some t) ∧ UnitReadable bus applyGcd st s := by
  unfold translateStep translateWithInterruptNexus at h
  unfold nexusTable UnitReadable
  cases hmap : dtIoGetProp bus.fdt st.nexus "interrupt-map" with
  | error e => simp [hmap] at h
  | ok map =>
      cases hmask : dtIoGetProp bus.fdt st.nexus "interrupt-map-mask" with
      | error e => simp [hmap, hmask] at h
      | ok mask =>
          simp only [hmap, hmask, maskedChildUnitAddress] at h
          by_cases hcells : st.child.info.addressCells.val = 0
          · exact ⟨⟨_, by simp only [hcells, ↓reduceIte]; rfl⟩, Or.inl hcells⟩
          · simp only [hcells, ↓reduceIte] at h ⊢
            rcases hget : dtIoGetReg bus.fdt applyGcd st.child 0 s with ⟨e | reg, s'⟩
            · simp [hget] at h
            · have hfirst := busBase_dtIoGetReg bus.fdt applyGcd st.child s reg (by rw [hget])
              rcases hparse : dtIoParsePropBusAddress bus.fdt.mem st.child mask 0 with
                ⟨e | maskAddress, mask'⟩
              · simp [hget, hparse] at h
              · exact ⟨⟨_, by simp only [hfirst]; rfl⟩, Or.inr ⟨reg, rfl⟩⟩

theorem nexusTable_rows (t : NexusTable) (h : nexusTable bus st = some t) :
    ∃ map : DtProperty, t.rows =
      (mapRows bus st.child st.nexus st.interruptCells (map.end_ - map.iter) map).1 := by
  unfold nexusTable at h
  split at h
  · next map mask hmap hmask =>
      dsimp only at h
      split at h
      · exact ⟨map, by rw [← Option.some.inj h]⟩
      · split at h
        · exact ⟨map, by rw [← Option.some.inj h]⟩
        · simp at h
  · simp at h

theorem firstMatch_of_accepted (t : NexusTable) (row : MapRow)
    (htable : nexusTable bus st = some t) (hrow : firstAccepted bus st t = some row)
    (hwithin : RowWithinMask bus st.interruptCells t.mask row) :
    firstMatch bus st t = some row := by
  obtain ⟨map, hrows⟩ := nexusTable_rows bus st t htable
  have haccepted := List.find?_some hrow
  rw [← hrow]
  refine (FirstMatch.find?_congr _ _ _ fun other hother => ?_).symm
  rw [Bool.eq_iff_iff]
  simp only [decide_eq_true_eq]
  have hmem := FirstMatch.mem_of_mem_examined _ _ _ hother
  rw [hrows] at hmem
  have hcells := ((mapRows_ordered bus st.child st.nexus st.interruptCells _ map).1
    other hmem).1
  constructor
  · intro hother_accepted
    have heq := FirstMatch.eq_of_mem_examined _ _ _ _ hrow hother hother_accepted
    subst heq
    exact (rowMatches_iff_of_accepted _ _ _ _ _ _ _ haccepted).mpr hwithin
  · exact rowAccepted_of_rowMatches _ _ _ _ _ _ row other haccepted hcells

/-- One nexus step follows the rules exactly when the accepted row lies within the mask and
no other error of `GetReg` hides that none matches. -/
theorem stepFollowsRules_iff :
    StepFollowsRules bus applyGcd st s ↔ StepConditions bus applyGcd st s := by
  constructor
  · intro h
    constructor
    · intro hunit t row htable hrow
      have hstep := translateStep_eq bus applyGcd st s t htable hunit
      rw [hrow] at hstep
      obtain ⟨t', matched, htable', hmatch, htarget⟩ := h.1 row.target hstep
      obtain rfl := Option.some.inj (htable.symm.trans htable')
      obtain ⟨map, hrows⟩ := nexusTable_rows bus st t htable
      have hsame : matched = row := by
        refine target_injective bus st.child st.nexus st.interruptCells
          (map.end_ - map.iter) map matched row ?_ ?_ htarget
        · rw [← hrows]; exact List.mem_of_find?_eq_some hmatch
        · rw [← hrows]; exact List.mem_of_find?_eq_some hrow
      subst hsame
      have hmatches := List.find?_some hmatch
      exact (rowMatches_iff_of_accepted _ _ _ _ _ _ _ (List.find?_some hrow)).mp
        (by simpa using hmatches)
    · intro hnone
      have hstep := h.2 hnone
      obtain ⟨rows, hrows, -⟩ := hnone
      by_cases hcells : st.child.info.addressCells.val = 0
      · exact Or.inl (Or.inl hcells)
      · cases hreg : (dtIoGetReg bus.fdt applyGcd st.child 0 s).1 with
        | ok reg => exact Or.inl (Or.inr ⟨reg, hreg⟩)
        | error e =>
            rw [translateStep_unreadable bus applyGcd st s hrows hcells e hreg] at hstep
            exact Or.inr (hreg.trans (congrArg _ (Except.error.inj hstep)))
  · intro h
    constructor
    · intro m hm
      obtain ⟨⟨t, htable⟩, hunit⟩ := nexusTable_of_translateStep bus applyGcd st s m hm
      rw [translateStep_eq bus applyGcd st s t htable hunit] at hm
      cases hrow : firstAccepted bus st t with
      | none =>
          rw [hrow] at hm
          cases hmal : t.malformed <;> simp [hmal] at hm
      | some row =>
          rw [hrow] at hm
          exact ⟨t, row, htable, firstMatch_of_accepted bus st t row htable hrow
            (h.accepted hunit t row htable hrow), Except.ok.inj hm⟩
    · intro hnone
      have hreported := h.reported hnone
      obtain ⟨rows, hrows, hunmatched⟩ := hnone
      by_cases hunit : UnitReadable bus applyGcd st s
      · cases htable : nexusTable bus st with
        | none => exact translateStep_unmasked bus applyGcd st s hrows htable hunit
        | some t =>
            have hsame := hrows.symm.trans (nexusRows_of_table bus st t htable)
            obtain ⟨-, hmalformed⟩ := Prod.mk.inj (Option.some.inj hsame)
            rw [translateStep_eq bus applyGcd st s t htable hunit]
            cases hrow : firstAccepted bus st t with
            | none => rw [← hmalformed]
            | some row =>
                have hmatch := firstMatch_of_accepted bus st t row htable hrow
                  (h.accepted hunit t row htable hrow)
                cases hmatch.symm.trans (hunmatched t htable)
      · exact translateStep_unreadable bus applyGcd st s hrows
          (fun hcells => hunit (Or.inl hcells)) .notFound (hreported.resolve_left hunit)

end Nexus

section Run

variable {σ : Type} (bus : DtBus) (applyGcd : ApplyGcd σ) (this : DtDevice) (index : Nat)
  (s : σ)

/-- The nexuses at which the code translates, with the GCD state there. -/
def VisitsNexus (st : InterruptState) (s' : σ) : Prop :=
  ∃ start, interruptGetStart bus this index = some (.ok start) ∧
    Loop.Reaches (interruptGetBody bus applyGcd) (start, s) (st, s') ∧
      isInterruptController bus.fdt st.nexus = false

/-- The walk starts at the device, with the cursor at the specifier with the
given index of the `interrupts` property. -/
def StartsAtSpecifier (start : InterruptState) : Prop :=
  start.child = this ∧ ∃ p, dtIoGetProp bus.fdt this "interrupts" = .ok p ∧
    start.interrupt.iter = p.begin_ + 4 * (start.interruptCells.toNat * index) ∧
      start.interrupt.end_ = p.end_ ∧ start.interruptCells.toNat ≤ start.interrupt.cells

/-- A successful call ends where the rules lead from the specifier asked for,
and a nexus without a matching row makes the call fail with `EFI_NOT_FOUND`. -/
def InterruptFollowsRules : Prop :=
  (∀ fuel result, fbpInterruptGet bus applyGcd fuel this index s = .returned (.ok result) →
      ∃ start, interruptGetStart bus this index = some (.ok start) ∧
        StartsAtSpecifier bus this index start ∧ RulesWalk bus start result) ∧
    (∀ st s', VisitsNexus bus applyGcd this index s st s' → NoRowMatches bus st →
      ∃ fuel, fbpInterruptGet bus applyGcd fuel this index s = .returned (.error .notFound))

private theorem iter_of_dtIoGetProp (fdt : Fdt) (device : DtDevice) (name : String)
    (p : DtProperty) (h : dtIoGetProp fdt device name = .ok p) : p.iter = p.begin_ := by
  unfold dtIoGetProp at h
  split at h
  · simp at h
  · simp at h
  · rw [← Except.ok.inj h]
    rfl

theorem interruptGetStart_startsAtSpecifier (start : InterruptState)
    (h : interruptGetStart bus this index = some (.ok start)) :
    StartsAtSpecifier bus this index start := by
  unfold interruptGetStart at h
  cases hprop : dtIoGetProp bus.fdt this "interrupts" with
  | error e => simp [hprop] at h
  | ok interrupts =>
      have hiter := iter_of_dtIoGetProp _ _ _ _ hprop
      simp only [hprop] at h
      split at h
      · simp at h
      · split at h
        · simp at h
        · split at h
          · simp at h
          · next interruptCells hcells =>
              split at h
              · simp at h
              · split at h
                · simp at h
                · next hindex =>
                    simp only [Option.some.injEq, Except.ok.injEq] at h
                    subst h
                    refine ⟨rfl, interrupts, hprop, by simp [hiter], rfl, ?_⟩
                    have hbound := interrupts.elem_le_cells interruptCells.toNat index
                      (by rwa [DtProperty.cells, Nat.div_div_eq_div_mul])
                    rw [Nat.mul_succ] at hbound
                    simp only [DtProperty.cells_advance]
                    omega

theorem interruptGetBody_controller (st : InterruptState)
    (h : isInterruptController bus.fdt st.nexus = true) :
    interruptGetBody bus applyGcd (st, s) = .exit (.ok (st.parentHandle, st.interrupt), s) := by
  simp [interruptGetBody, h]

theorem interruptGetBody_error (st : InterruptState) (e : EfiError)
    (h : isInterruptController bus.fdt st.nexus = false)
    (hstep : translateStep bus applyGcd st s = .error e) :
    ∃ s', interruptGetBody bus applyGcd (st, s) = .exit (.error e, s') := by
  unfold translateStep at hstep
  rcases hrun : translateWithInterruptNexus bus applyGcd st.child st.nexus
    st.interruptCells st.interrupt s with ⟨result, s'⟩
  rw [hrun] at hstep
  simp only at hstep
  exact ⟨s', by simp [interruptGetBody, h, hrun, hstep]⟩

theorem interruptGetBody_next (st st' : InterruptState) (s' : σ)
    (h : interruptGetBody bus applyGcd (st, s) = .next (st', s')) :
    isInterruptController bus.fdt st.nexus = false ∧
      ∃ m, translateStep bus applyGcd st s = .ok m ∧ st' = followRow st m := by
  unfold interruptGetBody at h
  cases hc : isInterruptController bus.fdt st.nexus with
  | true => simp [hc] at h
  | false =>
      refine ⟨rfl, ?_⟩
      unfold translateStep
      rcases hrun : translateWithInterruptNexus bus applyGcd st.child st.nexus
        st.interruptCells st.interrupt s with ⟨e | m, s''⟩
      · simp [hc, hrun] at h
      · simp only [hc, hrun, Bool.false_eq_true, ↓reduceIte, Loop.Step.next.injEq,
          Prod.mk.injEq] at h
        exact ⟨m, rfl, h.1.symm⟩

theorem rulesWalk_of_run (fuel : Nat) (st : InterruptState) (s s' : σ)
    (result : EfiHandle × DtProperty)
    (hrules : ∀ st₁ s₁, Loop.Reaches (interruptGetBody bus applyGcd) (st, s) (st₁, s₁) →
      isInterruptController bus.fdt st₁.nexus = false →
        StepFollowsRules bus applyGcd st₁ s₁)
    (hrun : Loop.run (interruptGetBody bus applyGcd) fuel (st, s) =
      some (.ok result, s')) :
    RulesWalk bus st result := by
  induction fuel generalizing st s with
  | zero => simp [Loop.run] at hrun
  | succ fuel ih =>
      cases hbody : interruptGetBody bus applyGcd (st, s) with
      | exit r =>
          rw [Loop.run_exit _ _ _ _ hbody] at hrun
          obtain rfl := Option.some.inj hrun
          cases hc : isInterruptController bus.fdt st.nexus with
          | true =>
              rw [interruptGetBody_controller bus applyGcd s st hc] at hbody
              simp only [Loop.Step.exit.injEq, Prod.mk.injEq, Except.ok.injEq] at hbody
              rw [← hbody.1]
              exact RulesWalk.controller st hc
          | false =>
              unfold interruptGetBody at hbody
              simp only [hc, Bool.false_eq_true, ↓reduceIte] at hbody
              split at hbody <;> simp at hbody
      | next next =>
          obtain ⟨st₁, s₁⟩ := next
          rw [Loop.run_next _ _ _ _ hbody] at hrun
          obtain ⟨hc, m, hm, rfl⟩ := interruptGetBody_next bus applyGcd s st st₁ s₁ hbody
          obtain ⟨t, row, htable, hrow, rfl⟩ :=
            (hrules st s Relation.ReflTransGen.refl hc).1 m hm
          refine RulesWalk.nexus st t row result hc htable hrow (ih _ s₁ ?_ hrun)
          intro st₂ s₂ hreach
          exact hrules st₂ s₂ (Relation.ReflTransGen.head hbody hreach)

/-- Every nexus step of a call follows the rules if and only if the conditions on a step hold
at every nexus visited, and then so does the call. -/
theorem interruptGet_followsRules_iff :
    ((∀ st s', VisitsNexus bus applyGcd this index s st s' →
        StepFollowsRules bus applyGcd st s') ↔
      (∀ st s', VisitsNexus bus applyGcd this index s st s' →
        StepConditions bus applyGcd st s')) ∧
    ((∀ st s', VisitsNexus bus applyGcd this index s st s' →
        StepConditions bus applyGcd st s') →
      InterruptFollowsRules bus applyGcd this index s) := by
  have hiff : (∀ st s', VisitsNexus bus applyGcd this index s st s' →
        StepFollowsRules bus applyGcd st s') ↔
      (∀ st s', VisitsNexus bus applyGcd this index s st s' →
        StepConditions bus applyGcd st s') :=
    forall_congr' fun st => forall_congr' fun s' => forall_congr' fun _ =>
      stepFollowsRules_iff bus applyGcd st s'
  refine ⟨hiff, fun hwithin => ⟨?_, ?_⟩⟩
  · intro fuel result hget
    have hrules := hiff.mpr hwithin
    unfold fbpInterruptGet at hget
    cases hstart : interruptGetStart bus this index with
    | none => simp [hstart] at hget
    | some r =>
        cases r with
        | error e => simp [hstart] at hget
        | ok start =>
            cases hrun : Loop.run (interruptGetBody bus applyGcd) fuel (start, s) with
            | none => simp [hstart, hrun] at hget
            | some out =>
                obtain ⟨r, s'⟩ := out
                simp only [hstart, hrun, InterruptOutcome.returned.injEq] at hget
                subst hget
                refine ⟨start, rfl, interruptGetStart_startsAtSpecifier bus this index start
                  hstart, rulesWalk_of_run bus applyGcd fuel start s s' result ?_ hrun⟩
                intro st₁ s₁ hreach hc
                exact hrules st₁ s₁ ⟨start, hstart, hreach, hc⟩
  · rintro st s' ⟨start, hstart, hreach, hc⟩ hnone
    have hstep := (hiff.mpr hwithin st s' ⟨start, hstart, hreach, hc⟩).2 hnone
    obtain ⟨s'', hexit⟩ := interruptGetBody_error bus applyGcd s' st .notFound hc hstep
    obtain ⟨fuel, hrun⟩ := Loop.exists_run_of_exit _ _ _ _ hreach hexit
    exact ⟨fuel, by simp [fbpInterruptGet, hstart, hrun]⟩

end Run

/-- A device (node 1) below a nexus (node 2) whose mask keeps the low three bits
of the specifier; the controller is node 3. The rows are `<0x9 &controller 0x10>`
and `<0x1 &controller 0x20>`, the interrupt is `<1>`. -/
def maskedNexusMem (a : Nat) : U8 :=
  ([0, 0, 0, 1,  0, 0, 0, 7,
    0, 0, 0, 9,  0, 0, 0, 3,  0, 0, 0, 0x10,
    0, 0, 0, 1,  0, 0, 0, 3,  0, 0, 0, 0x20] : List U8).getD a 0

def maskedNexusFdt : Fdt where
  mem := maskedNexusMem
  getprop node name :=
    if node = 1 ∧ name = "interrupts" then .ok (0, 4)
    else if node = 2 ∧ name = "interrupt-map-mask" then .ok (4, 4)
    else if node = 2 ∧ name = "interrupt-map" then .ok (8, 24)
    else if name = "#interrupt-cells" then .ok (0, 4)
    else if node = 3 ∧ name = "interrupt-controller" then .ok (0, 0)
    else .error .notFound

def nexusDevice : DtDevice := .root ⟨2, 2, 2, 2, 1, 0, 0, false, 0, none, MAX_UINT64⟩

def controllerDevice : DtDevice :=
  .child ⟨3, 3, 3, 0, 0, 0, 0, false, 0, none, MAX_UINT64⟩ nexusDevice

def interruptDevice : DtDevice :=
  .child ⟨1, 1, 1, 0, 0, 0, 0, false, 0, none, MAX_UINT64⟩ nexusDevice

def maskedNexusBus : DtBus where
  fdt := maskedNexusFdt
  nodeOffsetByPhandle phandle := phandle.toNat
  nodePath _ := .ok "/controller"
  lookup _ _ _ := .ok 3
  handleProtocol handle := .ok (if handle = 3 then controllerDevice else nexusDevice)

def noGcd : ApplyGcd Unit := fun _ _ _ _ _ s => (.ok (), s)

def maskedNexusState : InterruptState :=
  ⟨interruptDevice, nexusDevice, 2, 1, DtProperty.ofBuf 0 4⟩

/-- The code masks the row `0x9` down to `1` and returns its specifier `0x10`;
the rules select the second row. -/
theorem interruptGet_masks_row :
    ¬ InterruptFollowsRules maskedNexusBus noGcd interruptDevice 0 () := by
  intro h
  obtain ⟨start, hstart, -, hwalk⟩ :=
    h.1 2 (3, ⟨8, 16, 32, by decide, by decide⟩) rfl
  have hstate : interruptGetStart maskedNexusBus interruptDevice 0 =
      some (.ok maskedNexusState) := rfl
  rw [hstate] at hstart
  simp only [Option.some.injEq, Except.ok.injEq] at hstart
  subst hstart
  cases hwalk with
  | nexus _ t row _ hnexus htable hrow hrest =>
      have htarget : (nexusTable maskedNexusBus maskedNexusState).bind (fun t =>
          (firstMatch maskedNexusBus maskedNexusState t).map (·.target)) =
          some ⟨⟨8, 28, 32, by decide, by decide⟩, 3, controllerDevice, 1⟩ := rfl
      rw [htable, Option.bind_some, hrow, Option.map_some, Option.some.injEq] at htarget
      rw [htarget] at hrest
      cases hrest with
      | nexus _ _ _ _ hnexus' =>
          have hcontroller :
              isInterruptController maskedNexusFdt controllerDevice = true := rfl
          exact absurd hnexus' (by rw [followRow]; simp [maskedNexusBus, hcontroller])

end FdtBusPkg
