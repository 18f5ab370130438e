import FdtBusPkg.Library.Align
import FdtBusPkg.Pci.HostBridge

/-!
The searches an allocation makes. A search asks the GCD for the addresses of an
aperture in steps of the alignment; which addresses those are depends on the
node and the aperture only, never on the GCD, except that it stops at the first
one granted.
-/
namespace FdtBusPkg

/-! Requests to the GCD. -/

/-- A region of `length` bytes at `x` would be granted. -/
def Grantable (free : GcdSpace → Span → Bool) (space : GcdSpace) (length x : U64) (gcd : Gcd) :
    Prop :=
  free space (gcdRegion x length) = true ∧ (gcd space).Free (gcdRegion x length)

/-- What the first map holds, the second one holds. -/
def HeldIn (gcd gcd' : Gcd) : Prop :=
  ∀ space, ∀ span ∈ (gcd space).held, span ∈ (gcd' space).held

theorem heldIn_refl (gcd : Gcd) : HeldIn gcd gcd := fun _ _ h => h

theorem heldIn_trans {gcd gcd' gcd'' : Gcd} (h : HeldIn gcd gcd') (h' : HeldIn gcd' gcd'') :
    HeldIn gcd gcd'' :=
  fun space span hspan => h' space span (h space span hspan)

section Requests

variable (free : GcdSpace → Span → Bool) (space : GcdSpace) (length x : U64) (gcd gcd' : Gcd)

theorem grantable_anti (hheld : HeldIn gcd gcd') (h : Grantable free space length x gcd') :
    Grantable free space length x gcd :=
  ⟨h.1, (gcd space).free_anti (gcd' space) _ (hheld space) h.2⟩

theorem gcdAllocate_eq_none_iff :
    gcdAllocate free space length x gcd = none ↔ ¬ Grantable free space length x gcd := by
  rw [gcdAllocate, Grantable]
  by_cases hfree : free space (gcdRegion x length) = true
  · rw [if_pos hfree, Option.map_eq_none_iff, HeldSpans.allocate_eq_none_iff, hfree]
    simp only [true_and]
  · rw [if_neg hfree]
    exact ⟨fun _ hboth => hfree hboth.1, fun _ => rfl⟩

variable (h : gcdAllocate free space length x gcd = some gcd')
include h

theorem grantable_of_gcdAllocate : Grantable free space length x gcd := by
  by_contra hne
  rw [(gcdAllocate_eq_none_iff free space length x gcd).mpr hne] at h
  contradiction

theorem held_of_gcdAllocate (other : GcdSpace) (span : Span) :
    span ∈ (gcd' other).held ↔
      (other = space ∧ span = gcdRegion x length) ∨ span ∈ (gcd other).held := by
  have hgrantable := grantable_of_gcdAllocate free space length x gcd gcd' h
  rw [gcdAllocate, if_pos hgrantable.1, Option.map_eq_some_iff] at h
  obtain ⟨partition, hallocate, rfl⟩ := h
  by_cases hother : other = space
  · rw [hother, Function.update_self,
      (gcd space).held_of_allocate partition _ hallocate, List.mem_cons]
    simp only [true_and]
  · rw [Function.update_of_ne hother]
    simp only [hother, false_and, false_or]

theorem heldIn_of_gcdAllocate : HeldIn gcd gcd' := fun other span hspan =>
  (held_of_gcdAllocate free space length x gcd gcd' h other span).mpr (Or.inr hspan)

end Requests

/-! One search. -/

/-- The arguments of `AllocateResource` that depend on the aperture. -/
structure ApertureSearch where
  bitsOfAlignment : U64
  baseAddress : U64
  limit : U64
  deriving DecidableEq, Repr

namespace ApertureSearch

variable (q : ApertureSearch) (length : U64)

def step : U64 := (1 : U64) <<< q.bitsOfAlignment

/-- The search asks for `x`, unless it has been granted an address before. -/
def Asks (x : U64) : Prop :=
  q.baseAddress < q.limit ∧
    Scan.Visits (· + q.step) (searchInside length q.limit) (ALIGN_VALUE q.baseAddress q.step) x

/-- The search ends even when every request is refused. -/
def Ends : Prop :=
  q.baseAddress < q.limit →
    Scan.Leaves (· + q.step) (searchInside length q.limit) (ALIGN_VALUE q.baseAddress q.step)

/-- `AllocateResource` on this aperture. -/
def run (free : GcdSpace → Span → Bool) (space : GcdSpace) (gcd : Gcd) : Option (U64 × Gcd) :=
  allocateResource free (space = .memory) length q.bitsOfAlignment q.baseAddress q.limit gcd

theorem toNat_iterate_add (step x : U64) (k : Nat) :
    ((· + step)^[k] x).toNat = (x.toNat + k * step.toNat) % 2 ^ 64 := by
  induction k with
  | zero => rw [Function.iterate_zero_apply, Nat.zero_mul, Nat.add_zero, Nat.mod_eq_of_lt x.isLt]
  | succ k ih =>
      rw [Function.iterate_succ_apply', BitVec.toNat_add, ih, Nat.mod_add_mod, Nat.add_mul,
        Nat.one_mul, Nat.add_assoc]

theorem iterate_add_cycle (step x : U64) : (· + step)^[2 ^ 64] x = x := by
  apply BitVec.eq_of_toNat_eq
  rw [toNat_iterate_add, Nat.add_mul_mod_self_left, Nat.mod_eq_of_lt x.isLt]

variable (free : GcdSpace → Span → Bool) (space : GcdSpace) (gcd gcd' : Gcd) (x : U64)

theorem run_eq :
    q.run length free space gcd =
      if q.baseAddress < q.limit then
        (Scan.run (· + q.step) (searchInside length q.limit)
            (fun base => gcdAllocate free space length base gcd) (2 ^ 64)
            (ALIGN_VALUE q.baseAddress q.step)).map
          fun found => found.getD (MAX_UINT64, gcd)
      else
        some (MAX_UINT64, gcd) := by
  cases space <;> rfl

/-- A search that returns has been granted an address it asked for, or has asked in vain. -/
theorem run_cases (h : q.run length free space gcd = some (x, gcd')) :
    (x = MAX_UINT64 ∧ gcd' = gcd ∧ q.Ends length ∧
      ∀ y, q.Asks length y → ¬ Grantable free space length y gcd) ∨
    (q.Asks length x ∧ gcdAllocate free space length x gcd = some gcd') := by
  rw [run_eq] at h
  by_cases hlt : q.baseAddress < q.limit
  · rw [if_pos hlt, Option.map_eq_some_iff] at h
    obtain ⟨found, hscan, hfound⟩ := h
    cases found with
    | none =>
        obtain ⟨rfl, rfl⟩ := Prod.mk.inj hfound
        obtain ⟨hleaves, hrefused⟩ := Scan.leaves_of_run _ _ _ _ _ hscan
        refine Or.inl ⟨rfl, rfl, fun _ => hleaves, fun y hy => ?_⟩
        exact (gcdAllocate_eq_none_iff free space length y gcd).mp (hrefused y hy.2)
    | some hit =>
        obtain ⟨y, granted⟩ := hit
        obtain ⟨rfl, rfl⟩ := Prod.mk.inj hfound
        obtain ⟨hvisits, hgranted⟩ := Scan.visits_of_run _ _ _ _ _ _ _ hscan
        exact Or.inr ⟨⟨hlt, hvisits⟩, hgranted⟩
  · rw [if_neg hlt] at h
    obtain ⟨rfl, rfl⟩ := Prod.mk.inj (Option.some.inj h)
    exact Or.inl ⟨rfl, rfl, fun h => absurd h hlt, fun y hy => absurd hy.1 hlt⟩

theorem run_ne_none (h : q.Ends length) : q.run length free space gcd ≠ none := by
  rw [run_eq]
  by_cases hlt : q.baseAddress < q.limit
  · rw [if_pos hlt, ne_eq, Option.map_eq_none_iff]
    exact Scan.run_ne_none _ _ _ (2 ^ 64) (by decide) _ (iterate_add_cycle _ _) (h hlt)
  · rw [if_neg hlt]
    exact Option.some_ne_none _

/-- When one address only can be granted and the search asks for it, it is found. -/
theorem run_of_only (hends : q.Ends length) (hasks : q.Asks length x)
    (hgranted : gcdAllocate free space length x gcd = some gcd')
    (honly : ∀ y, y ≠ x → ¬ Grantable free space length y gcd) :
    q.run length free space gcd = some (x, gcd') := by
  have hscan := Scan.run_eq_of_only _ _ (fun base => gcdAllocate free space length base gcd) _ _ x
    gcd' hasks.2 hgranted
    (fun y hy => (gcdAllocate_eq_none_iff free space length y gcd).mpr (honly y hy))
    (Scan.run_ne_none _ _ _ (2 ^ 64) (by decide) _ (iterate_add_cycle _ _) (hends hasks.1))
  rw [run_eq, if_pos hasks.1, hscan]
  rfl

/-- When nothing it asks for can be granted, the search comes back empty-handed. -/
theorem run_of_refused (hends : q.Ends length)
    (hrefused : ∀ y, q.Asks length y → ¬ Grantable free space length y gcd) :
    q.run length free space gcd = some (MAX_UINT64, gcd) := by
  cases hrun : q.run length free space gcd with
  | none => exact absurd hrun (q.run_ne_none length free space gcd hends)
  | some found =>
      obtain ⟨y, granted⟩ := found
      rcases q.run_cases length free space gcd granted y hrun with ⟨rfl, rfl, -⟩ | ⟨hasks, hgranted⟩
      · rfl
      · exact absurd (grantable_of_gcdAllocate free space length y gcd granted hgranted)
          (hrefused y hasks)

/-! Alignment of the addresses asked for. -/

theorem toNat_step (hbits : q.bitsOfAlignment.toNat < 64) :
    q.step.toNat = 2 ^ q.bitsOfAlignment.toNat := by
  have hlt : 2 ^ q.bitsOfAlignment.toNat < 2 ^ 64 := Nat.pow_lt_pow_right (by decide) hbits
  have hone : (1 : U64).toNat = 1 := rfl
  rw [step, BitVec.shiftLeft_eq', BitVec.toNat_shiftLeft, hone, Nat.one_shiftLeft,
    Nat.mod_eq_of_lt hlt]

theorem dvd_alignValue (value alignment : U64) (b : Nat) (hb : b < 64)
    (halignment : alignment.toNat = 2 ^ b) : 2 ^ b ∣ (ALIGN_VALUE value alignment).toNat := by
  have hlt : 2 ^ b < 2 ^ 64 := Nat.pow_lt_pow_right (by decide) hb
  have hpos : 0 < 2 ^ b := Nat.two_pow_pos b
  have hdvd : 2 ^ b ∣ 2 ^ 64 := Nat.pow_dvd_pow 2 hb.le
  have hone : (1 : U64).toNat = 1 := rfl
  have hmask : alignment - 1 = Align.lowMask 64 b := by
    apply BitVec.eq_of_toNat_eq
    rw [Align.lowMask, BitVec.toNat_ofNat, BitVec.toNat_sub, halignment, hone]
    omega
  rw [ALIGN_VALUE, hmask, BitVec.toNat_add, Align.toNat_and_lowMask _ b hb.le,
    BitVec.toNat_sub, halignment, Nat.mod_mod_of_dvd _ hdvd, Nat.dvd_mod_iff hdvd,
    Nat.dvd_iff_mod_eq_zero, Nat.add_mod_mod]
  have hsum : value.toNat + (2 ^ 64 - value.toNat + 2 ^ b) = 2 ^ 64 + 2 ^ b := by
    have := value.isLt
    omega
  rw [hsum, Nat.add_mod_right]
  exact Nat.mod_eq_zero_of_dvd hdvd

theorem dvd_of_asks (hbits : q.bitsOfAlignment.toNat < 64) (h : q.Asks length x) :
    q.step.toNat ∣ x.toNat := by
  have hstep := q.toNat_step hbits
  obtain ⟨-, k, rfl, -⟩ := h
  have hdvd : q.step.toNat ∣ 2 ^ 64 := by
    rw [hstep]
    exact Nat.pow_dvd_pow 2 hbits.le
  have hstart : q.step.toNat ∣ (ALIGN_VALUE q.baseAddress q.step).toNat := by
    have hvalue := dvd_alignValue q.baseAddress q.step q.bitsOfAlignment.toNat hbits hstep
    rwa [← hstep] at hvalue
  rw [toNat_iterate_add, Nat.dvd_mod_iff hdvd]
  exact Nat.dvd_add hstart (Nat.dvd_mul_left _ k)

end ApertureSearch

/-! The searches of a node, one after the other. -/

section Searches

variable (bridge : PciHostBridge) (index : PciResourceType) (node : PciResNode)

def memorySearch (maxBits : U64) (range : DtRange) : ApertureSearch where
  bitsOfAlignment := MIN maxBits (lowBitSet64 (node.alignment + 1))
  baseAddress := toHostAddress (ALIGN_VALUE range.rb (node.alignment + 1)) range.rt
  limit := toHostAddress range.rl range.rt

def ioSearch : ApertureSearch where
  bitsOfAlignment := MIN 15 (lowBitSet64 (node.alignment + 1))
  baseAddress := ALIGN_VALUE bridge.ioRange.rb (node.alignment + 1)
  limit := bridge.ioRange.rl

def searches : PciResourceType → List ApertureSearch
  | .io => [ioSearch bridge node]
  | .mem32 => [memorySearch node 31 bridge.memRange]
  | .pMem32 => [memorySearch node 31 bridge.pMemRange]
  | .mem64 => [memorySearch node 63 bridge.memAbove4GRange, memorySearch node 31 bridge.memRange]
  | .pMem64 =>
    [memorySearch node 63 bridge.pMemAbove4GRange, memorySearch node 31 bridge.pMemRange]
  | .bus => []

/-- The host address kept in the node for an address granted. -/
def hostBase (x : U64) : U64 :=
  if index = .io then toHostAddress x bridge.ioRange.rt else x

/-- Each search is made when the one before it gave `MAX_UINT64`. -/
def runSearches (free : GcdSpace → Span → Bool) (space : GcdSpace) (length : U64) :
    List ApertureSearch → Gcd → Option (U64 × Gcd)
  | [], gcd => some (MAX_UINT64, gcd)
  | q :: rest, gcd =>
    match q.run length free space gcd with
    | none => none
    | some (x, gcd) =>
      if x ≠ MAX_UINT64 then some (x, gcd) else runSearches free space length rest gcd

theorem runSearches_singleton (free : GcdSpace → Span → Bool) (space : GcdSpace) (length : U64)
    (q : ApertureSearch) (gcd : Gcd) :
    runSearches free space length [q] gcd = q.run length free space gcd := by
  rw [runSearches]
  cases q.run length free space gcd with
  | none => rfl
  | some found =>
      by_cases hx : found.1 = MAX_UINT64
      · simp only [hx, ne_eq, not_true_eq_false, if_false, runSearches]
        rw [← hx]
      · simp only [hx, ne_eq, not_false_eq_true, if_true]

theorem runSearches_pair (free : GcdSpace → Span → Bool) (space : GcdSpace) (length : U64)
    (q q' : ApertureSearch) (gcd : Gcd) :
    runSearches free space length [q, q'] gcd =
      (q.run length free space gcd).bind fun (x, gcd) =>
        if x ≠ MAX_UINT64 then some (x, gcd) else q'.run length free space gcd := by
  rw [runSearches]
  cases q.run length free space gcd with
  | none => rfl
  | some found => simp only [runSearches_singleton, Option.bind_some]

theorem allocateNode_eq (free : GcdSpace → Span → Bool) (gcd : Gcd) :
    allocateNode bridge free index node gcd =
      (runSearches free index.space node.length (searches bridge node index) gcd).map
        fun (x, gcd) => (if x ≠ MAX_UINT64 then hostBase bridge index x else x, gcd) := by
  have hmemory (r : Option (U64 × Gcd)) :
      r = r.map fun (x, gcd) => (if x ≠ MAX_UINT64 then x else x, gcd) := by
    cases r <;> simp only [ite_self, Option.map_none, Option.map_some]
  cases index with
  | io =>
      have hbind : allocateNode bridge free .io node gcd =
          ((ioSearch bridge node).run node.length free .io gcd).bind fun (x, gcd) =>
            if x ≠ MAX_UINT64 then some (toHostAddress x bridge.ioRange.rt, gcd)
            else some (x, gcd) := rfl
      rw [hbind, searches, runSearches_singleton, PciResourceType.space]
      cases (ioSearch bridge node).run node.length free .io gcd with
      | none => rfl
      | some found =>
          by_cases hx : found.1 = MAX_UINT64 <;>
            simp only [hx, hostBase, Option.bind_some, Option.map_some, ne_eq, not_true_eq_false,
              not_false_eq_true, if_false, if_true]
  | mem32 | pMem32 =>
      rw [searches, runSearches_singleton]
      exact hmemory _
  | mem64 | pMem64 =>
      rw [searches, runSearches_pair]
      exact hmemory _
  | bus => rfl

variable (free : GcdSpace → Span → Bool) (space : GcdSpace) (length : U64)

/-- The address found was asked for by one of the searches and is new to the GCD. -/
theorem runSearches_cases (qs : List ApertureSearch) (gcd gcd' : Gcd) (x : U64)
    (h : runSearches free space length qs gcd = some (x, gcd')) :
    (x = MAX_UINT64 ∧ HeldIn gcd gcd') ∨
    (x ≠ MAX_UINT64 ∧ ∃ q ∈ qs, q.Asks length x ∧
      ∃ g, HeldIn gcd g ∧ gcdAllocate free space length x g = some gcd') := by
  induction qs generalizing gcd with
  | nil =>
      obtain ⟨rfl, rfl⟩ := Prod.mk.inj (Option.some.inj h)
      exact Or.inl ⟨rfl, heldIn_refl gcd⟩
  | cons q rest ih =>
      rw [runSearches] at h
      cases hrun : q.run length free space gcd with
      | none => rw [hrun] at h; contradiction
      | some found =>
          obtain ⟨y, g⟩ := found
          simp only [hrun] at h
          have hcases := q.run_cases length free space gcd g y hrun
          by_cases hy : y = MAX_UINT64
          · rw [if_neg (not_not.mpr hy)] at h
            have hheld : HeldIn gcd g := by
              rcases hcases with ⟨-, rfl, -⟩ | ⟨-, hgranted⟩
              · exact heldIn_refl g
              · exact heldIn_of_gcdAllocate free space length y gcd g hgranted
            rcases ih g h with ⟨hx, hin⟩ | ⟨hx, q', hq', hasks, g', hin, hgranted⟩
            · exact Or.inl ⟨hx, heldIn_trans hheld hin⟩
            · exact Or.inr ⟨hx, q', List.mem_cons_of_mem q hq', hasks, g', heldIn_trans hheld hin,
                hgranted⟩
          · rw [if_pos hy] at h
            obtain ⟨rfl, rfl⟩ := Prod.mk.inj (Option.some.inj h)
            rcases hcases with ⟨hmax, -⟩ | ⟨hasks, hgranted⟩
            · exact absurd hmax hy
            · exact Or.inr ⟨hy, q, List.mem_cons_self, hasks, gcd, heldIn_refl gcd, hgranted⟩

/-- When no search can be granted `MAX_UINT64`, the GCD is as before unless an address is
found. -/
theorem runSearches_kept (qs : List ApertureSearch) (gcd gcd' : Gcd) (x : U64)
    (hmax : ∀ q ∈ qs, q.Asks length MAX_UINT64 → ¬ Grantable free space length MAX_UINT64 gcd)
    (h : runSearches free space length qs gcd = some (x, gcd')) :
    (x = MAX_UINT64 ∧ gcd' = gcd) ∨
    (x ≠ MAX_UINT64 ∧ ∃ q ∈ qs, q.Asks length x ∧
      gcdAllocate free space length x gcd = some gcd') := by
  induction qs with
  | nil =>
      obtain ⟨rfl, rfl⟩ := Prod.mk.inj (Option.some.inj h)
      exact Or.inl ⟨rfl, rfl⟩
  | cons q rest ih =>
      rw [runSearches] at h
      cases hrun : q.run length free space gcd with
      | none => rw [hrun] at h; contradiction
      | some found =>
          obtain ⟨y, g⟩ := found
          simp only [hrun] at h
          rcases q.run_cases length free space gcd g y hrun with
            ⟨rfl, rfl, -⟩ | ⟨hasks, hgranted⟩
          · rw [if_neg (not_not.mpr rfl)] at h
            rcases ih (fun q' hq' => hmax q' (List.mem_cons_of_mem q hq')) h with
              hkept | ⟨hx, q', hq', hfound⟩
            · exact Or.inl hkept
            · exact Or.inr ⟨hx, q', List.mem_cons_of_mem q hq', hfound⟩
          · have hy : y ≠ MAX_UINT64 := by
              rintro rfl
              exact hmax q List.mem_cons_self hasks
                (grantable_of_gcdAllocate free space length _ gcd g hgranted)
            rw [if_pos hy] at h
            obtain ⟨rfl, rfl⟩ := Prod.mk.inj (Option.some.inj h)
            exact Or.inr ⟨hy, q, List.mem_cons_self, hasks, hgranted⟩

theorem runSearches_ne_none (qs : List ApertureSearch) (gcd : Gcd)
    (hends : ∀ q ∈ qs, q.Ends length) : runSearches free space length qs gcd ≠ none := by
  induction qs generalizing gcd with
  | nil => exact Option.some_ne_none _
  | cons q rest ih =>
      rw [runSearches]
      cases hrun : q.run length free space gcd with
      | none =>
          exact absurd hrun
            (q.run_ne_none length free space gcd (hends q List.mem_cons_self))
      | some found =>
          dsimp only
          split
          · exact Option.some_ne_none _
          · exact ih _ fun q' hq' => hends q' (List.mem_cons_of_mem q hq')

theorem runSearches_of_refused (qs : List ApertureSearch) (gcd : Gcd)
    (hends : ∀ q ∈ qs, q.Ends length) (hrefused : ∀ y, ¬ Grantable free space length y gcd) :
    runSearches free space length qs gcd = some (MAX_UINT64, gcd) := by
  induction qs with
  | nil => rfl
  | cons q rest ih =>
      rw [runSearches, q.run_of_refused length free space gcd (hends q List.mem_cons_self)
        fun y _ => hrefused y]
      exact ih fun q' hq' => hends q' (List.mem_cons_of_mem q hq')

/-- When nothing can be granted, every search is made, so all of them end. -/
theorem ends_of_runSearches (qs : List ApertureSearch) (gcd : Gcd)
    (hrefused : ∀ y, ¬ Grantable free space length y gcd)
    (h : runSearches free space length qs gcd ≠ none) : ∀ q ∈ qs, q.Ends length := by
  induction qs with
  | nil => exact List.forall_mem_nil _
  | cons q rest ih =>
      rw [runSearches] at h
      cases hrun : q.run length free space gcd with
      | none => rw [hrun] at h; contradiction
      | some found =>
          obtain ⟨y, g⟩ := found
          simp only [hrun] at h
          rcases q.run_cases length free space gcd g y hrun with
            ⟨rfl, rfl, hends, -⟩ | ⟨-, hgranted⟩
          · rw [if_neg (not_not.mpr rfl)] at h
            exact List.forall_mem_cons.mpr ⟨hends, ih h⟩
          · exact absurd (grantable_of_gcdAllocate free space length y gcd g hgranted)
              (hrefused y)

/-- When one address only can be granted and some search asks for it, it is found. -/
theorem runSearches_of_only (qs : List ApertureSearch) (gcd gcd' : Gcd) (x : U64)
    (hends : ∀ q ∈ qs, q.Ends length) (hx : x ≠ MAX_UINT64)
    (hasks : ∃ q ∈ qs, q.Asks length x)
    (hgranted : gcdAllocate free space length x gcd = some gcd')
    (honly : ∀ y, y ≠ x → ¬ Grantable free space length y gcd) :
    runSearches free space length qs gcd = some (x, gcd') := by
  induction qs with
  | nil =>
      obtain ⟨q, hq, -⟩ := hasks
      exact absurd hq List.not_mem_nil
  | cons q rest ih =>
      have hq := hends q List.mem_cons_self
      rw [runSearches]
      by_cases hfirst : q.Asks length x
      · rw [q.run_of_only length free space gcd gcd' x hq hfirst hgranted honly]
        exact if_pos hx
      · have hrefused (y : U64) (hy : q.Asks length y) : ¬ Grantable free space length y gcd := by
          apply honly y
          rintro rfl
          exact hfirst hy
        rw [q.run_of_refused length free space gcd hq hrefused]
        apply ih (fun q' hq' => hends q' (List.mem_cons_of_mem q hq'))
        obtain ⟨q', hq', hasks⟩ := hasks
        rcases List.mem_cons.mp hq' with rfl | hq'
        · exact absurd hasks hfirst
        · exact ⟨q', hq', hasks⟩

end Searches

end FdtBusPkg
