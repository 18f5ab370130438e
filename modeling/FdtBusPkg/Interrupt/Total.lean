import FdtBusPkg.Interrupt.Walk
import Mathlib.Data.Set.Finite.Lattice
import Mathlib.Order.Interval.Finset.Nat

/-!
Termination of interrupt resolution. The bound on the index divides by a value of
the tree, and the walk over nexuses keeps no record of where it has been, so it
ends exactly when it never comes back to a state it has left.
-/
namespace FdtBusPkg

/-- A tree of which finitely many devices can be looked up. -/
structure FiniteDtBus extends DtBus where
  handles : Finset EfiHandle
  lookup_mem (device : DtDevice) (path : String) (connect : Bool) (handle : EfiHandle)
    (h : lookup device path connect = .ok handle) : handle ∈ handles

/-- Whatever the GCD map does, the call returns. -/
def InterruptTotal (bus : DtBus) (this : DtDevice) (index : Nat) : Prop :=
  ∀ (σ : Type) (applyGcd : ApplyGcd σ) (s : σ),
    ∃ fuel result, fbpInterruptGet bus applyGcd fuel this index s = .returned result

/-- The number of cells of a specifier, as the interrupt parent of a device has it. -/
def interruptParentCells (bus : DtBus) (this : DtDevice) : EfiResult U32 :=
  let parentHandle := match dtIoGetDevice bus this "interrupt-parent" 0 with
    | .ok handle => some handle
    | .error _ => this.parentDevice
  match parentHandle with
  | none => .error .notFound
  | some parentHandle =>
    match bus.handleProtocol parentHandle with
    | .error e => .error e
    | .ok parent => dtIoGetU32 bus.fdt parent "#interrupt-cells" 0

/-- A nexus translates the specifier of a state to that of another. -/
def NexusFollows (bus : DtBus) (st st' : InterruptState) : Prop :=
  isInterruptController bus.fdt st.nexus = false ∧
    ∃ m, translateStep bus noGcd st () = .ok m ∧ st' = followRow st m

/-- The device has no `interrupts`, or its interrupt parent a nonzero cell count. -/
def CellsNonzero (bus : DtBus) (this : DtDevice) : Prop :=
  ∀ p, dtIoGetProp bus.fdt this "interrupts" = .ok p → interruptParentCells bus this ≠ .ok 0

/-- No state of the walk is reached from itself. -/
def WalkAcyclic (bus : DtBus) (this : DtDevice) (index : Nat) : Prop :=
  ∀ start, interruptGetStart bus this index = some (.ok start) →
    ∀ st, Relation.ReflTransGen (NexusFollows bus) start st →
      ¬ Relation.TransGen (NexusFollows bus) st st

theorem follows_parseElem (mem : Nat → U8) (n : Nat) (p q : DtProperty) (index : Nat)
    (r : EfiResult U128) (h : parseElem mem n p index = (r, q)) : p.Follows q := by
  rw [parseElem] at h
  split at h
  · rw [← (Prod.mk.inj h).2]
    exact p.follows_refl
  · rw [← (Prod.mk.inj h).2]
    exact p.follows_advance _ _

theorem follows_parseAddressElem (mem : Nat → U8) (cells : CellCount) (p q : DtProperty)
    (index : Nat) (r : EfiResult U128) (h : parseAddressElem mem cells p index = (r, q)) :
    p.Follows q := by
  rw [parseAddressElem] at h
  split at h
  · rw [← (Prod.mk.inj h).2]
    exact p.follows_refl
  · exact follows_parseElem mem _ p q index r h

theorem follows_parsePropDevice (bus : DtBus) (device : DtDevice) (p q : DtProperty)
    (index : Nat) (r : EfiResult EfiHandle) (h : dtIoParsePropDevice bus device p index = (r, q)) :
    p.Follows q := by
  rw [dtIoParsePropDevice, dtIoParsePropU32] at h
  by_cases hcells : p.cells ≤ index
  · rw [dif_pos hcells] at h
    rw [← (Prod.mk.inj h).2]
    exact p.follows_refl
  · simp only [dif_neg hcells] at h
    split at h
    · rw [← (Prod.mk.inj h).2]
      exact p.follows_refl
    · split at h
      · rw [← (Prod.mk.inj h).2]
        exact p.follows_refl
      · split at h
        · rw [← (Prod.mk.inj h).2]
          exact p.follows_refl
        · rw [← (Prod.mk.inj h).2]
          exact p.follows_advance _ _

section Row

variable (bus : DtBus) (child nexus : DtDevice) (interruptCells : U32)

/-- What a row translates to is read from the map and the handle database. -/
def TargetOf (map : DtProperty) (m : NexusMatch) : Prop :=
  map.Follows m.interrupt ∧
    (∃ device path, bus.lookup device path true = .ok m.interruptParentHandle) ∧
    bus.handleProtocol m.interruptParentHandle = .ok m.interruptParentIo ∧
    dtIoGetU32 bus.fdt m.interruptParentIo "#interrupt-cells" 0 = .ok m.interruptCells

theorem lookup_of_parsePropDevice (device : DtDevice) (p q : DtProperty) (index : Nat)
    (handle : EfiHandle) (h : dtIoParsePropDevice bus device p index = (.ok handle, q)) :
    ∃ path, bus.lookup device path true = .ok handle := by
  rw [dtIoParsePropDevice] at h
  split at h
  · exact absurd h (by simp)
  · dsimp only at h
    split at h
    · exact absurd h (by simp)
    · split at h
      · exact absurd h (by simp)
      · next path _ =>
        split at h
        · exact absurd h (by simp)
        · next found hlookup =>
          rw [← Except.ok.inj (Prod.mk.inj h).1]
          exact ⟨path, hlookup⟩

theorem nexusRowTarget_spec (map rest : DtProperty) (m : NexusMatch)
    (h : nexusRowTarget bus nexus map = .ok (m, rest)) :
    TargetOf bus map m ∧ map.Follows rest := by
  rw [nexusRowTarget] at h
  split at h
  · exact absurd h (by simp)
  · next handle afterDevice hdevice =>
    have hfollows := follows_parsePropDevice bus nexus _ _ _ _ hdevice
    split at h
    · exact absurd h (by simp)
    · next parent hparent =>
      split at h
      · exact absurd h (by simp)
      · next cells hcells =>
        split at h
        · exact absurd h (by simp)
        · next afterAddress hskip =>
          have hskipped := DtProperty.follows_trans hfollows (DtProperty.follows_skip? _ _ _ hskip)
          split at h
          · obtain ⟨rfl, rfl⟩ := Prod.mk.inj (Except.ok.inj h)
            obtain ⟨path, hlookup⟩ := lookup_of_parsePropDevice bus nexus _ _ _ _ hdevice
            exact ⟨⟨hskipped, ⟨nexus, path, hlookup⟩, hparent, hcells⟩,
              DtProperty.follows_trans hskipped (DtProperty.follows_advance _ _ _)⟩
          · exact absurd h (by simp)

theorem rowUnitAddress_follows (mem : Nat → U8) (map q : DtProperty) (unit : DtBusAddress)
    (h : rowUnitAddress mem child map = .ok (unit, q)) : map.Follows q := by
  rw [rowUnitAddress] at h
  split at h
  · rw [← (Prod.mk.inj (Except.ok.inj h)).2]
    exact map.follows_refl
  · split at h
    · exact absurd h (by simp)
    · next hparse =>
      rw [← (Prod.mk.inj (Except.ok.inj h)).2]
      exact follows_parseAddressElem mem _ _ _ _ _ hparse

theorem parseRow_spec (map rest : DtProperty) (row : MapRow)
    (h : parseRow bus child nexus interruptCells map = .ok (row, rest)) :
    TargetOf bus map row.target ∧ map.Follows rest := by
  rw [parseRow] at h
  split at h
  · exact absurd h (by simp)
  · next unit specifier hunit =>
    have hspecifier := rowUnitAddress_follows child _ _ _ _ hunit
    split at h
    · exact absurd h (by simp)
    · next afterSpecifier hskip =>
      have hskipped := DtProperty.follows_trans hspecifier (DtProperty.follows_skip? _ _ _ hskip)
      split at h
      · exact absurd h (by simp)
      · next target afterTarget htarget =>
        obtain ⟨⟨hinterrupt, hknown⟩, hrest⟩ := nexusRowTarget_spec bus nexus _ _ _ htarget
        obtain ⟨rfl, rfl⟩ := Prod.mk.inj (Except.ok.inj h)
        exact ⟨⟨DtProperty.follows_trans hskipped hinterrupt, hknown⟩,
          DtProperty.follows_trans hskipped hrest⟩

variable (interrupt mask : DtProperty) (maskedUnitAddress : DtBusAddress)

theorem nexusRowLoop_target (fuel : Nat) (map : DtProperty) (m : NexusMatch)
    (h : nexusRowLoop bus child nexus interruptCells interrupt mask maskedUnitAddress fuel map =
      .ok m) : TargetOf bus map m := by
  induction fuel generalizing map with
  | zero => exact absurd h (by simp [nexusRowLoop])
  | succ fuel ih =>
      rw [nexusRowLoop_succ] at h
      split at h
      · split at h
        · exact absurd h (by simp)
        · next row rest hrow =>
          obtain ⟨htarget, hrest⟩ := parseRow_spec bus child nexus interruptCells _ _ _ hrow
          split at h
          · rw [← Except.ok.inj h]
            exact htarget
          · obtain ⟨hfollows, hknown⟩ := ih rest h
            exact ⟨DtProperty.follows_trans hrest hfollows, hknown⟩
      · exact absurd h (by simp)

end Row

section Step

variable (bus : DtBus)

/-- A register that is found is found with a GCD map that accepts every update. -/
theorem translateAndApply_noGcd {σ : Type} (fdt : Fdt) (applyGcd : ApplyGcd σ)
    (device : DtDevice) (isReg : Bool) (index : Nat) (base : DtBusAddress) (length : DtSize)
    (s : σ) (r : DtBusAddress × Option DtIoRef)
    (h : (translateAndApply fdt applyGcd device isReg index base length s).1 = .ok r) :
    (translateAndApply fdt noGcd device isReg index base length ()).1 = .ok r := by
  rw [translateAndApply] at h ⊢
  split at h
  · exact absurd h (by simp)
  · exact h
  · split at h
    · next hzero => rw [if_pos hzero]; exact h
    · next hzero =>
      rw [if_neg hzero]
      split at h
      · exact absurd h (by simp)
      · split at h
        · exact absurd h (by simp)
        · exact h

theorem dtIoGetReg_noGcd {σ : Type} (fdt : Fdt) (applyGcd : ApplyGcd σ) (device : DtDevice)
    (index : Nat) (s : σ) (reg : DtReg)
    (h : (dtIoGetReg fdt applyGcd device index s).1 = .ok reg) :
    (dtIoGetReg fdt noGcd device index ()).1 = .ok reg := by
  rw [dtIoGetReg] at h ⊢
  split at h
  · exact absurd h (by simp)
  · next p _ =>
    simp only [dtIoParsePropReg] at h ⊢
    split at h
    · exact absurd h (by simp)
    · next hcells =>
      rw [if_neg hcells]
      split at h
      · exact absurd h (by simp)
      · next hindex =>
        rw [dif_neg hindex]
        split at h
        · exact absurd h (by simp)
        · split at h
          · exact absurd h (by simp)
          · split at h
            · exact absurd h (by simp)
            · next translatedBase busDtIo _ happly =>
              have happlied := translateAndApply_noGcd fdt applyGcd device true index _ _ s
                (translatedBase, busDtIo) (by rw [happly])
              rcases hnone : translateAndApply fdt noGcd device true index _ _ () with ⟨r, u⟩
              rw [hnone] at happlied
              dsimp only at happlied
              rw [happlied]
              exact h

/-- A nexus step that succeeds does so with any GCD map that accepts every update. -/
theorem translateStep_noGcd {σ : Type} (applyGcd : ApplyGcd σ) (st : InterruptState) (s : σ)
    (m : NexusMatch) (h : translateStep bus applyGcd st s = .ok m) :
    translateStep bus noGcd st () = .ok m := by
  obtain ⟨⟨t, htable⟩, hunit⟩ := nexusTable_of_translateStep bus applyGcd st s m h
  have hunit' : UnitReadable bus noGcd st () := by
    rcases hunit with hcells | ⟨reg, hreg⟩
    · exact Or.inl hcells
    · exact Or.inr ⟨reg, dtIoGetReg_noGcd bus.fdt applyGcd st.child 0 s reg hreg⟩
  rw [translateStep_eq bus applyGcd st s t htable hunit] at h
  rw [translateStep_eq bus noGcd st () t htable hunit']
  exact h

theorem translateStep_target {σ : Type} (applyGcd : ApplyGcd σ) (st : InterruptState) (s : σ)
    (m : NexusMatch) (h : translateStep bus applyGcd st s = .ok m) :
    ∃ map, dtIoGetProp bus.fdt st.nexus "interrupt-map" = .ok map ∧ TargetOf bus map m := by
  rw [translateStep, translateWithInterruptNexus] at h
  split at h
  · exact absurd h (by simp)
  · next map hmap =>
    split at h
    · exact absurd h (by simp)
    · split at h
      · exact absurd h (by simp)
      · exact ⟨map, hmap, nexusRowLoop_target bus _ _ _ _ _ _ _ _ _ h⟩

theorem nexusFollows_of_body {σ : Type} (applyGcd : ApplyGcd σ) (a b : InterruptState × σ)
    (h : interruptGetBody bus applyGcd a = .next b) : NexusFollows bus a.1 b.1 := by
  obtain ⟨hnexus, m, hm, hnext⟩ := interruptGetBody_next bus applyGcd a.2 a.1 b.1 b.2 h
  exact ⟨hnexus, m, translateStep_noGcd bus applyGcd a.1 a.2 m hm, hnext⟩

/-- With a GCD map that accepts every update, the walk is what the code does. -/
theorem body_of_nexusFollows (st st' : InterruptState) (h : NexusFollows bus st st') :
    interruptGetBody bus noGcd (st, ()) = .next (st', ()) := by
  obtain ⟨hnexus, m, hm, rfl⟩ := h
  rw [translateStep] at hm
  rcases hrun : translateWithInterruptNexus bus noGcd st.child st.nexus st.interruptCells
    st.interrupt () with ⟨r, u⟩
  rw [hrun] at hm
  dsimp only at hm
  simp only [interruptGetBody, hnexus, hrun, hm, Bool.false_eq_true, if_false, followRow]

end Step

section Finite

variable (b : FiniteDtBus) (start : InterruptState)

def walkDevices : Set DtDevice :=
  {d | d = start.nexus ∨ ∃ h ∈ b.handles, b.handleProtocol h = .ok d}

theorem walkDevices_finite : (walkDevices b start).Finite := by
  refine ((b.handles.finite_toSet.image (fun h => match b.handleProtocol h with
    | .ok d => d
    | .error _ => start.nexus)).insert start.nexus).subset ?_
  intro d hd
  rcases hd with rfl | ⟨h, hmem, hd⟩
  · exact Set.mem_insert _ _
  · exact Set.mem_insert_of_mem _ ⟨h, hmem, by simp only [hd]⟩

/-- A state after a nexus: its specifier lies in the map of that nexus. -/
structure AfterNexus (st : InterruptState) : Prop where
  child : st.child ∈ walkDevices b start
  handle : st.parentHandle ∈ b.handles
  nexus : b.handleProtocol st.parentHandle = .ok st.nexus
  cells : dtIoGetU32 b.fdt st.nexus "#interrupt-cells" 0 = .ok st.interruptCells
  interrupt : ∃ map, dtIoGetProp b.fdt st.child "interrupt-map" = .ok map ∧
    map.Follows st.interrupt

theorem afterNexus_follows (st st' : InterruptState) (hst : st.nexus ∈ walkDevices b start)
    (h : NexusFollows b.toDtBus st st') : AfterNexus b start st' := by
  obtain ⟨-, m, hm, rfl⟩ := h
  obtain ⟨map, hmap, hinterrupt, ⟨device, path, hlookup⟩, hnexus, hcells⟩ :=
    translateStep_target b.toDtBus noGcd st () m hm
  exact ⟨hst, b.lookup_mem device path true _ hlookup, hnexus, hcells, map, hmap, hinterrupt⟩

theorem afterNexus_reached (st : InterruptState)
    (h : Relation.ReflTransGen (NexusFollows b.toDtBus) start st) :
    st = start ∨ AfterNexus b start st := by
  induction h with
  | refl => exact Or.inl rfl
  | tail _ hstep ih =>
      refine Or.inr (afterNexus_follows b start _ _ ?_ hstep)
      rcases ih with rfl | hafter
      · exact Or.inl rfl
      · exact Or.inr ⟨_, hafter.handle, hafter.nexus⟩

/-- Child, parent handle and position of the specifier tell the states apart. -/
theorem afterNexus_injOn : Set.InjOn (fun st : InterruptState =>
    (st.child, st.parentHandle, st.interrupt.iter)) {st | AfterNexus b start st} := by
  intro u hu v hv huv
  obtain ⟨hchild, hhandle, hiter⟩ : u.child = v.child ∧ u.parentHandle = v.parentHandle ∧
      u.interrupt.iter = v.interrupt.iter := by simpa using huv
  have hnexus : u.nexus = v.nexus := by
    have heq := hu.nexus
    rw [hhandle, hv.nexus] at heq
    exact (Except.ok.inj heq).symm
  have hcells : u.interruptCells = v.interruptCells := by
    have heq := hu.cells
    rw [hnexus, hv.cells] at heq
    exact (Except.ok.inj heq).symm
  obtain ⟨map, hmap, hbegin, hend, -⟩ := hu.interrupt
  obtain ⟨map', hmap', hbegin', hend', -⟩ := hv.interrupt
  rw [hchild, hmap', Except.ok.injEq] at hmap
  have hinterrupt : u.interrupt = v.interrupt := by
    rw [DtProperty.mk.injEq]
    exact ⟨by rw [hbegin, hbegin', hmap], hiter, by rw [hend, hend', hmap]⟩
  cases u
  cases v
  simp only [InterruptState.mk.injEq]
  exact ⟨hchild, hnexus, hhandle, hcells, hinterrupt⟩

theorem reachable_finite :
    {st | Relation.ReflTransGen (NexusFollows b.toDtBus) start st}.Finite := by
  have hmaps : (⋃ d ∈ walkDevices b start, Set.Iic (match dtIoGetProp b.fdt d "interrupt-map" with
      | .ok map => map.end_
      | .error _ => 0)).Finite :=
    Set.Finite.biUnion (walkDevices_finite b start) (fun _ _ => Set.finite_Iic _)
  have hafter : {st | AfterNexus b start st}.Finite := by
    refine Set.Finite.of_finite_image ?_ (afterNexus_injOn b start)
    refine ((walkDevices_finite b start).prod (b.handles.finite_toSet.prod hmaps)).subset ?_
    rintro _ ⟨st, hst, rfl⟩
    refine ⟨hst.child, hst.handle, Set.mem_biUnion hst.child ?_⟩
    obtain ⟨map, hmap, -, hend, -⟩ := hst.interrupt
    rw [Set.mem_Iic, hmap]
    dsimp only
    rw [← hend]
    exact st.interrupt.iter_le
  exact (hafter.insert start).subset (fun st hst => afterNexus_reached b start st hst)

end Finite

section Total

variable (bus : DtBus) (this : DtDevice) (index : Nat)

theorem interruptGetStart_eq_none_iff :
    interruptGetStart bus this index = none ↔ ¬ CellsNonzero bus this := by
  rw [interruptGetStart, CellsNonzero]
  cases hinterrupts : dtIoGetProp bus.fdt this "interrupts" with
  | error e => simp
  | ok interrupts =>
      simp only [Except.ok.injEq, forall_eq', interruptParentCells, not_not]
      rcases dtIoGetDevice bus this "interrupt-parent" 0 with e | handle
      on_goal 1 => rcases this.parentDevice with _ | handle
      case ok.error.none => simp
      all_goals
        dsimp only
        cases bus.handleProtocol handle with
        | error e => simp
        | ok parent =>
            dsimp only
            cases dtIoGetU32 bus.fdt parent "#interrupt-cells" 0 with
            | error e => simp
            | ok cells =>
                dsimp only
                rw [Except.ok.injEq]
                by_cases hzero : cells = 0
                · simp [hzero]
                · have hne : cells.toNat ≠ 0 := fun h => hzero (BitVec.eq_of_toNat_eq h)
                  simp only [if_neg hne, hzero, iff_false]
                  split <;> simp

end Total

/-- Interrupt resolution returns exactly when the cell count it divides by is not zero
and the walk never comes back to a state. -/
theorem interruptTotal_iff (b : FiniteDtBus) (this : DtDevice) (index : Nat) :
    InterruptTotal b.toDtBus this index ↔
      CellsNonzero b.toDtBus this ∧ WalkAcyclic b.toDtBus this index := by
  constructor
  · intro h
    obtain ⟨fuel, result, hget⟩ := h Unit noGcd ()
    rw [fbpInterruptGet] at hget
    refine ⟨?_, ?_⟩
    · by_contra hzero
      rw [(interruptGetStart_eq_none_iff b.toDtBus this index).mpr hzero] at hget
      exact absurd hget (by simp)
    · intro start hstart st hreach hcycle
      have hbody : ∀ u v, NexusFollows b.toDtBus u v →
          interruptGetBody b.toDtBus noGcd (u, ()) = .next (v, ()) :=
        body_of_nexusFollows b.toDtBus
      have hnone := Loop.run_eq_none_of_cycle (interruptGetBody b.toDtBus noGcd) (start, ())
        (st, ()) (hreach.lift (fun u => (u, ())) hbody) (hcycle.lift (fun u => (u, ())) hbody) fuel
      rw [hstart] at hget
      dsimp only at hget
      rw [hnone] at hget
      exact absurd hget (by simp)
  · intro h σ applyGcd s
    obtain ⟨hcells, hacyclic⟩ := h
    cases hstart : interruptGetStart b.toDtBus this index with
    | none => exact absurd hcells ((interruptGetStart_eq_none_iff b.toDtBus this index).mp hstart)
    | some r =>
        cases r with
        | error e => exact ⟨0, .error e, by rw [fbpInterruptGet, hstart]⟩
        | ok start =>
            obtain ⟨t, q, hreach, hexit⟩ := Loop.exists_exit_of_acyclic
              (interruptGetBody b.toDtBus applyGcd) (NexusFollows b.toDtBus) Prod.fst
              (nexusFollows_of_body b.toDtBus applyGcd) (start, s) (reachable_finite b start)
              (hacyclic start hstart)
            obtain ⟨fuel, hrun⟩ := Loop.exists_run_of_exit _ _ _ _ hreach hexit
            exact ⟨fuel, q.1, by simp only [fbpInterruptGet, hstart, hrun]⟩

/-- A nexus (node 2) whose only row `<0x1 &nexus 0x1>` leads back to it, and a device
(node 1) with the interrupt `<1>`. -/
def selfNexusMem (a : Nat) : U8 :=
  ([0, 0, 0, 1,  0, 0, 0, 1,  0, 0, 0, 1,  0, 0, 0, 2,  0, 0, 0, 1] : List U8).getD a 0

def selfNexusFdt : Fdt where
  mem := selfNexusMem
  getprop node name :=
    if node = 1 ∧ name = "interrupts" then .ok (0, 4)
    else if node = 2 ∧ name = "interrupt-map-mask" then .ok (4, 4)
    else if node = 2 ∧ name = "interrupt-map" then .ok (8, 12)
    else if name = "#interrupt-cells" then .ok (0, 4)
    else .error .notFound

def selfNexusDevice : DtDevice := .root ⟨2, 2, 2, 0, 0, 0, 0, false, 0, none, MAX_UINT64⟩

def selfNexusBus : DtBus where
  fdt := selfNexusFdt
  nodeOffsetByPhandle phandle := phandle.toNat
  nodePath _ := .ok "/nexus"
  lookup _ _ _ := .ok 2
  handleProtocol _ := .ok selfNexusDevice

def selfNexusState : InterruptState :=
  ⟨selfNexusDevice, selfNexusDevice, 2, 1, ⟨8, 16, 20, by decide, by decide⟩⟩

/-- The walk never leaves the nexus. -/
theorem selfNexus_not_total : ¬ InterruptTotal selfNexusBus interruptDevice 0 := by
  intro h
  obtain ⟨fuel, result, hget⟩ := h Unit noGcd ()
  have hstart : interruptGetStart selfNexusBus interruptDevice 0 =
      some (.ok ⟨interruptDevice, selfNexusDevice, 2, 1, DtProperty.ofBuf 0 4⟩) := rfl
  have hfirst : interruptGetBody selfNexusBus noGcd
      (⟨interruptDevice, selfNexusDevice, 2, 1, DtProperty.ofBuf 0 4⟩, ()) =
        .next (selfNexusState, ()) := rfl
  have hagain : interruptGetBody selfNexusBus noGcd (selfNexusState, ()) =
      .next (selfNexusState, ()) := rfl
  have hnone := Loop.run_eq_none_of_cycle (interruptGetBody selfNexusBus noGcd)
    (⟨interruptDevice, selfNexusDevice, 2, 1, DtProperty.ofBuf 0 4⟩, ()) (selfNexusState, ())
    (Relation.ReflTransGen.single hfirst) (Relation.TransGen.single hagain) fuel
  rw [fbpInterruptGet, hstart] at hget
  dsimp only at hget
  rw [hnone] at hget
  exact absurd hget (by simp)

end FdtBusPkg
