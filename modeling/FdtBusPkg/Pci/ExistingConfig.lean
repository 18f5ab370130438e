import FdtBusPkg.Library.Leases
import FdtBusPkg.Pci.AllocatePhase
import FdtBusPkg.Pci.DtInit
import FdtBusPkg.Pci.FirstFree

/-!
The configuration a root bridge is told to keep: its apertures are claimed in the GCD
when the instance is created, one node after the other, and given back from the node
table when it is freed.
-/
namespace FdtBusPkg

/-- `PCI_RES_NODE` with `ResTracked`, which only the two functions here use. -/
structure TrackedNode extends PciResNode where
  resTracked : Bool
  deriving DecidableEq, Repr

/-- The nodes of the instance, and the GCD. -/
structure ExistingState where
  nodes : PciResourceType → TrackedNode
  gcd : Gcd

def ExistingState.setNode (s : ExistingState) (t : PciResourceType) (node : TrackedNode) :
    ExistingState :=
  { s with nodes := Function.update s.nodes t node }

def TrackedNode.blank : TrackedNode := ⟨⟨0, 0, 0, .none⟩, false⟩

/-- The state with the nodes `AllocateZeroPool` gives. -/
def createdState (gcd : Gcd) : ExistingState := ⟨fun _ => .blank, gcd⟩

/-- `TypeIo` up to `TypeMax`. -/
def nodeTypes : List PciResourceType := resourceTypes ++ [.bus]

section Keep

variable (bridge : PciHostBridge)

def existingRange : PciResourceType → DtRange
  | .bus => bridge.busRange
  | .io => bridge.ioRange
  | .mem32 => bridge.memRange
  | .mem64 => bridge.memAbove4GRange
  | .pMem32 => bridge.pMemRange
  | .pMem64 => bridge.pMemAbove4GRange

/-- What an aperture with CPU addresses claims. -/
def claimRange (free : GcdSpace → Span → Bool) (index : PciResourceType) (range : DtRange)
    (gcd : Gcd) : Option (U64 × Gcd) :=
  if index = .io then do
    let base := range.rb
    let (base, gcd) ← allocateResource free false range.rs 1 base (base + range.rs - 1) gcd
    if base ≠ MAX_UINT64 then
      some (toHostAddress base range.rt, gcd)
    else
      some (base, gcd)
  else if index ≠ .bus then
    let base := toHostAddress range.rb range.rt
    allocateResource free true range.rs 1 base (base + range.rs - 1) gcd
  else
    some (range.rb, gcd)

def keepStep (free : GcdSpace → Span → Bool) (index : PciResourceType) (s : ExistingState) :
    Option ExistingState :=
  let range := existingRange bridge index
  if range.valid then
    if rangeHasPhysicalAddress range then
      (claimRange free index range s.gcd).map fun (base, gcd) =>
        if base ≠ MAX_UINT64 then
          { s with gcd := gcd }.setNode index
            { s.nodes index with
              base := base, length := range.rs, status := .allocated, resTracked := true }
        else
          { s with gcd := gcd }
    else
      some (s.setNode index
        { s.nodes index with
          base := range.rb, length := range.rs, status := .allocated, resTracked := false })
  else
    some s

/-- `none` stands for a search that never ends. What other owners leave free may change
from one aperture to the next. -/
def hostBridgeKeepExistingConfig (free : PciResourceType → GcdSpace → Span → Bool)
    (s : ExistingState) : Option ExistingState :=
  nodeTypes.foldlM (fun s index => keepStep bridge (free index) index s) s

end Keep

/-- A call of `FreeIoSpace` or `FreeMemorySpace`. -/
structure GcdFreeCall where
  space : GcdSpace
  region : Span
  status : EfiStatus

/-- `Status`, the GCD calls made and the state. -/
structure FreeProgress where
  status : EfiStatus
  calls : List GcdFreeCall
  state : ExistingState

section Free

variable (bridge : PciHostBridge)

/-- The GCD call for a tracked node, which a bus node goes without; `refusal` is an
error with which the GCD fails to free a region that is held. -/
def freeTracked (refusal : Option EfiError) (index : PciResourceType) (node : TrackedNode)
    (p : FreeProgress) : FreeProgress :=
  if index = .bus then
    p
  else
    let base := gcdBase bridge index node.base
    let freed : EfiResult Gcd :=
      match refusal with
      | some e => .error e
      | none => gcdFree index.space base node.length p.state.gcd
    match freed with
    | .ok gcd =>
      { status := .ok ()
        calls := p.calls ++ [⟨index.space, gcdRegion base node.length, .ok ()⟩]
        state := { p.state with gcd := gcd } }
    | .error e =>
      { p with
        status := .error e
        calls := p.calls ++ [⟨index.space, gcdRegion base node.length, .error e⟩] }

/-- The body of the loop over the nodes; `.error` returns `Status`. -/
def freeStep (refusal : PciResourceType → Option EfiError) (p : FreeProgress)
    (index : PciResourceType) : Except FreeProgress FreeProgress :=
  let node := p.state.nodes index
  if node.status = .allocated then
    let reset (p : FreeProgress) : Except FreeProgress FreeProgress :=
      .ok { p with
        state := p.state.setNode index
          { node with
            base := 0, length := 0, alignment := 0, status := .none, resTracked := false } }
    if node.resTracked then
      let p := freeTracked bridge (refusal index) index node p
      match p.status with
      | .error _ => .error p
      | .ok () => reset p
    else
      reset p
  else
    .ok p

/-- `leftover` is what the uninitialised `Status` happens to hold. -/
def hostBridgeFreeExistingConfig (refusal : PciResourceType → Option EfiError)
    (leftover : EfiStatus) (s : ExistingState) : FreeProgress :=
  match nodeTypes.foldlM (freeStep bridge refusal) ⟨leftover, [], s⟩ with
  | .error p => p
  | .ok p => { p with status := .ok () }

end Free

/-! Claims. -/

section Claim

variable (bridge : PciHostBridge) (free : GcdSpace → Span → Bool) (t : PciResourceType)

/-- The aperture is there and has CPU addresses. -/
def Backed : Prop :=
  (existingRange bridge t).valid = true ∧ rangeHasPhysicalAddress (existingRange bridge t) = true

instance : Decidable (Backed bridge t) := inferInstanceAs (Decidable (_ ∧ _))

/-- The search for the region of an aperture. -/
def existingSearch : ApertureSearch :=
  let range := existingRange bridge t
  let base := if t = .io then range.rb else toHostAddress range.rb range.rt
  ⟨1, base, base + range.rs - 1⟩

def existingLength : U64 := (existingRange bridge t).rs

def Claimable (gcd : Gcd) : Prop :=
  Backed bridge t ∧ (existingSearch bridge t).Obtains (existingLength bridge t) free t.space gcd

/-- The I/O search finds the address whose CPU address is the value for a failure. -/
def ClaimLost (gcd : Gcd) : Prop :=
  Backed bridge .io ∧ ∃ x, (existingSearch bridge .io).Finds (existingLength bridge .io) free .io
    gcd x ∧ hostBase bridge .io x = MAX_UINT64

theorem claimRange_eq (ht : t ∈ resourceTypes) (gcd : Gcd) :
    claimRange free t (existingRange bridge t) gcd =
      ((existingSearch bridge t).run (existingLength bridge t) free t.space gcd).map fun found =>
        (if found.1 ≠ MAX_UINT64 then hostBase bridge t found.1 else found.1, found.2) := by
  by_cases hio : t = .io
  · subst hio
    rw [claimRange, if_pos rfl]
    change Option.bind _ _ = Option.map _ _
    rw [Option.map_eq_bind]
    congr 1
    funext found
    dsimp only [Function.comp]
    split <;> rfl
  · have hbus : t ≠ .bus := by
      rintro rfl
      exact absurd ht (by decide)
    have hspace : t.space = .memory := by
      cases t <;> first | rfl | exact absurd rfl hio
    have hhost (x : U64) : hostBase bridge t x = x := by rw [hostBase, if_neg hio]
    rw [claimRange, if_neg hio, if_pos hbus, existingSearch, if_neg hio, hspace]
    simp only [hhost, ite_self]
    exact (congrFun Option.map_id _).symm

theorem bits_existingSearch_lt : (existingSearch bridge t).bitsOfAlignment.toNat < 64 := by
  change (1 : U64).toNat < 64
  decide

/-- The aperture ends so close to the end of the address space that the comparison never
stops its search. -/
def Unstopped : Prop :=
  let q := existingSearch bridge t
  q.baseAddress < q.limit ∧
    (q.limit = MAX_UINT64 - 1 ∨ q.limit = MAX_UINT64 - 2 ∧ 2 ∣ q.baseAddress.toNat)

theorem ends_existingSearch_iff :
    (existingSearch bridge t).Ends (existingLength bridge t) ↔ ¬ Unstopped bridge t := by
  have hbits := bits_existingSearch_lt bridge t
  rw [ApertureSearch.ends_iff _ _ hbits, Unstopped, not_and]
  refine imp_congr_right fun hlt => ?_
  have hstep : (existingSearch bridge t).step.toNat = 2 := rfl
  have hdvd := (existingSearch bridge t).dvd_start hbits
  have hcases := (existingSearch bridge t).start_cases hbits
  have hlimit : (existingSearch bridge t).limit =
      (existingSearch bridge t).baseAddress + existingLength bridge t - 1 := rfl
  have hmax : MAX_UINT64.toNat = 2 ^ 64 - 1 := rfl
  have hone : (1 : U64).toNat = 1 := rfl
  have htwo : (2 : U64).toNat = 2 := rfl
  have hlength := (existingLength bridge t).isLt
  have hbase := (existingSearch bridge t).baseAddress.isLt
  rw [ApertureSearch.Stops, ApertureSearch.lastEnd, ApertureSearch.firstEnd]
  rw [hstep] at hdvd hcases ⊢
  rw [hlimit, BitVec.lt_def, BitVec.toNat_sub, BitVec.toNat_add, hone] at hlt
  rw [hlimit, ← BitVec.toNat_inj, ← BitVec.toNat_inj]
  simp only [BitVec.toNat_add, BitVec.toNat_sub, hone, htwo, hmax]
  generalize (existingSearch bridge t).start.toNat = start at hdvd hcases ⊢
  generalize (existingSearch bridge t).baseAddress.toNat = base at hlt hcases hbase ⊢
  generalize (existingLength bridge t).toNat = length at hlt hlength ⊢
  constructor
  · rintro ⟨k, hover, hinside⟩
    omega
  · intro hnot
    refine ⟨(2 ^ 64 - 1 - (start + length) % 2 ^ 64) / 2, ?_, ?_⟩
    · omega
    · omega

theorem ne_max_of_finds (gcd : Gcd) (x : U64)
    (h : (existingSearch bridge t).Finds (existingLength bridge t) free t.space gcd x) :
    x ≠ MAX_UINT64 := by
  have hdvd := (existingSearch bridge t).dvd_of_asks (existingLength bridge t) x
    (bits_existingSearch_lt bridge t) h.asks
  have hstep : (existingSearch bridge t).step.toNat = 2 := rfl
  rintro rfl
  rw [hstep] at hdvd
  exact absurd hdvd (by decide)

end Claim

/-! Steps of the loop that claims. -/

section Nodes

variable (bridge : PciHostBridge)

def TrackedNode.lease (t : PciResourceType) (node : TrackedNode) : Option (GcdSpace × Span) :=
  if t ≠ .bus ∧ node.status = .allocated ∧ node.resTracked = true then
    some (t.space, nodeRegion bridge t node.toPciResNode)
  else
    none

def ExistingState.lease (s : ExistingState) (t : PciResourceType) : Option (GcdSpace × Span) :=
  (s.nodes t).lease bridge t

theorem lease_setNode (s : ExistingState) (t : PciResourceType) (node : TrackedNode) :
    (s.setNode t node).lease bridge = Function.update (s.lease bridge) t (node.lease bridge t) := by
  funext u
  rw [ExistingState.lease, ExistingState.setNode]
  dsimp only
  by_cases hut : u = t
  · rw [hut, Function.update_self, Function.update_self]
  · rw [Function.update_of_ne hut, Function.update_of_ne hut, ExistingState.lease]

theorem nodes_setNode_self (s : ExistingState) (t : PciResourceType) (node : TrackedNode) :
    (s.setNode t node).nodes t = node := by
  rw [ExistingState.setNode]
  dsimp only
  rw [Function.update_self]

theorem nodes_setNode_of_ne (s : ExistingState) (t u : PciResourceType) (node : TrackedNode)
    (hut : u ≠ t) : (s.setNode t node).nodes u = s.nodes u :=
  Function.update_of_ne hut _ _

theorem lease_blank (t : PciResourceType) : TrackedNode.blank.lease bridge t = none :=
  if_neg fun h => absurd h.2.1 (by decide)

theorem lease_bus (node : TrackedNode) : node.lease bridge .bus = none :=
  if_neg fun h => h.1 rfl

theorem setNode_self (s : ExistingState) (t : PciResourceType) : s.setNode t (s.nodes t) = s := by
  rw [ExistingState.setNode, Function.update_eq_self]

end Nodes

section KeepStep

variable (bridge : PciHostBridge) (free : GcdSpace → Span → Bool) (t : PciResourceType)
  (s s' : ExistingState)

/-- The outcomes of a step for an aperture. -/
inductive Kept : Prop
  | passed (node : TrackedNode) (hclaim : ¬ Claimable bridge free t s.gcd)
      (hlease : node.lease bridge t = none) (hnode : node.status ≠ .allocated → node = .blank)
      (heq : s' = s.setNode t node)
  | claimed (node : TrackedNode) (x : U64) (gcd : Gcd) (hclaim : Claimable bridge free t s.gcd)
      (hkept : t = .io → ¬ ClaimLost bridge free s.gcd)
      (hgranted : gcdAllocate free t.space (existingLength bridge t) x s.gcd = some gcd)
      (hlease : node.lease bridge t = some (t.space, gcdRegion x (existingLength bridge t)))
      (heq : s' = { s with gcd := gcd }.setNode t node)
  | lost (x : U64) (gcd : Gcd) (ht : t = .io) (hlost : ClaimLost bridge free s.gcd)
      (hgranted : gcdAllocate free t.space (existingLength bridge t) x s.gcd = some gcd)
      (heq : s' = { s with gcd := gcd })

theorem keepStep_kept (ht : t ∈ resourceTypes) (hblank : s.nodes t = .blank)
    (h : keepStep bridge free t s = some s') : Kept bridge free t s s' := by
  have hbus : t ≠ .bus := by
    rintro rfl
    exact absurd ht (by decide)
  rw [keepStep] at h
  dsimp only at h
  split at h
  · next hvalid =>
      split at h
      · next hphysical =>
          rw [claimRange_eq bridge free t ht, Option.map_map, Option.map_eq_some_iff] at h
          obtain ⟨⟨x, gcd⟩, hrun, heq⟩ := h
          simp only [Function.comp_apply] at heq
          rcases (existingSearch bridge t).run_finds (existingLength bridge t) free t.space s.gcd
            gcd x (bits_existingSearch_lt bridge t) hrun with
            ⟨rfl, rfl, hnone⟩ | ⟨hfinds, hgranted⟩
          · rw [if_neg (not_not.mpr rfl), if_neg (not_not.mpr rfl)] at heq
            refine .passed .blank (fun hclaim => hnone hclaim.2) (lease_blank bridge t)
              (fun _ => rfl) ?_
            rw [← heq, ← hblank, setNode_self]
          · rw [if_pos (ne_max_of_finds bridge free t s.gcd x hfinds)] at heq
            have hclaim : Claimable bridge free t s.gcd :=
              ⟨⟨hvalid, hphysical⟩, x, hfinds.asks, hfinds.grantable⟩
            split at heq
            · next hhost =>
                refine .claimed _ x gcd hclaim ?_ hgranted ?_ heq.symm
                · rintro rfl ⟨-, y, hy, hmax⟩
                  have hxy := ApertureSearch.finds_unique _ _ _ _ _ x y hfinds hy
                  exact hhost (hxy ▸ hmax)
                · rw [TrackedNode.lease, if_pos ⟨hbus, rfl, rfl⟩, nodeRegion]
                  dsimp only
                  rw [gcdBase_hostBase]
                  rfl
            · next hmax =>
                rw [not_not] at hmax
                have hio : t = .io := by
                  by_contra hio
                  rw [hostBase, if_neg hio] at hmax
                  exact ne_max_of_finds bridge free t s.gcd x hfinds hmax
                subst hio
                exact .lost x gcd rfl ⟨⟨hvalid, hphysical⟩, x, hfinds, hmax⟩ hgranted heq.symm
      · next hphysical =>
          refine .passed _ (fun hclaim => hphysical hclaim.1.2) (if_neg fun hlease => ?_)
            (fun hstatus => absurd rfl hstatus) (Option.some.inj h).symm
          exact absurd hlease.2.2 Bool.false_ne_true
  · next hvalid =>
      refine .passed .blank (fun hclaim => hvalid hclaim.1.1) (lease_blank bridge t)
        (fun _ => rfl) ?_
      rw [← hblank, setNode_self]
      exact (Option.some.inj h).symm

theorem keepStep_eq_none_iff (ht : t ∈ resourceTypes) :
    keepStep bridge free t s = none ↔
      Backed bridge t ∧ ¬ ((existingSearch bridge t).Ends (existingLength bridge t) ∨
        (existingSearch bridge t).Obtains (existingLength bridge t) free t.space s.gcd) := by
  rw [← ApertureSearch.run_eq_none_iff, keepStep, Backed]
  dsimp only
  split
  · next hvalid =>
      split
      · next hphysical =>
          rw [claimRange_eq bridge free t ht, Option.map_map, Option.map_eq_none_iff]
          exact (and_iff_right ⟨hvalid, hphysical⟩).symm
      · next hphysical => exact iff_of_false (Option.some_ne_none _) fun h => hphysical h.1.2
  · next hvalid => exact iff_of_false (Option.some_ne_none _) fun h => hvalid h.1.1

/-- The GCD map once an aperture is claimed, if it can be. -/
def gcdAfterClaim (gcd : Gcd) : Gcd :=
  if Backed bridge t then
    (((existingSearch bridge t).run (existingLength bridge t) free t.space gcd).map (·.2)).getD gcd
  else
    gcd

theorem gcd_keepStep (ht : t ∈ resourceTypes) (h : keepStep bridge free t s = some s') :
    s'.gcd = gcdAfterClaim bridge free t s.gcd := by
  rw [keepStep] at h
  rw [gcdAfterClaim]
  dsimp only at h
  split at h
  · next hvalid =>
      split at h
      · next hphysical =>
          rw [claimRange_eq bridge free t ht, Option.map_map, Option.map_eq_some_iff] at h
          obtain ⟨found, hrun, rfl⟩ := h
          rw [if_pos ⟨hvalid, hphysical⟩, hrun, Option.map_some, Option.getD_some,
            Function.comp_apply]
          rw [apply_ite ExistingState.gcd]
          exact ite_self found.2
      · next hphysical =>
          rw [if_neg fun h => hphysical h.2]
          exact (congrArg ExistingState.gcd (Option.some.inj h)).symm
  · next hvalid =>
      rw [if_neg fun h => hvalid h.1]
      exact (congrArg ExistingState.gcd (Option.some.inj h)).symm

def BusTracked : Prop := Backed bridge .bus ∧ bridge.busRange.rb ≠ MAX_UINT64

instance : Decidable (BusTracked bridge) := inferInstanceAs (Decidable (_ ∧ _))

theorem keepStep_bus (hblank : s.nodes .bus = .blank) :
    ∃ node : TrackedNode, keepStep bridge free .bus s = some (s.setNode .bus node) ∧
      (node.status = .allocated ∧ node.resTracked = true ↔ BusTracked bridge) ∧
      (node.status ≠ .allocated → node = .blank) := by
  have hunchanged : some s = some (s.setNode .bus .blank) := by rw [← hblank, setNode_self]
  rw [keepStep, BusTracked, Backed]
  dsimp only
  split
  · next hvalid =>
      split
      · next hphysical =>
          have hclaim : claimRange free .bus (existingRange bridge .bus) s.gcd =
              some (bridge.busRange.rb, s.gcd) := rfl
          rw [hclaim, Option.map_some]
          dsimp only
          split
          · next hbase =>
              exact ⟨_, rfl, iff_of_true ⟨rfl, rfl⟩ ⟨⟨hvalid, hphysical⟩, hbase⟩,
                fun hstatus => absurd rfl hstatus⟩
          · next hbase =>
              exact ⟨.blank, hunchanged, iff_of_false (by decide) fun h => hbase h.2, fun _ => rfl⟩
      · next hphysical =>
          exact ⟨_, rfl, iff_of_false (fun h => absurd h.2 Bool.false_ne_true)
            fun h => hphysical h.1.2,
            fun hstatus => absurd rfl hstatus⟩
  · next hvalid =>
      exact ⟨.blank, hunchanged, iff_of_false (by decide) fun h => hvalid h.1.1, fun _ => rfl⟩

end KeepStep

end FdtBusPkg
