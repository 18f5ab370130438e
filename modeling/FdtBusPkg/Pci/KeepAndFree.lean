import FdtBusPkg.Pci.ExistingConfig
import Mathlib.Data.List.Nodup

/-!
Keeping an existing configuration and freeing it again. The regions claimed are leases
on top of what the GCD held before, one for each tracked node of memory or I/O.
-/
namespace FdtBusPkg

/-! The loop that claims. -/

section KeepRun

variable (bridge : PciHostBridge)

theorem eq_update_of_gcdAllocate (free : GcdSpace → Span → Bool) (space : GcdSpace)
    (length x : U64) (gcd gcd' : Gcd) (h : gcdAllocate free space length x gcd = some gcd') :
    ∃ q, (gcd space).allocate (gcdRegion x length) = some q ∧
      gcd' = Function.update gcd space q := by
  rw [gcdAllocate] at h
  split at h
  · obtain ⟨q, hq, heq⟩ := Option.map_eq_some_iff.mp h
    exact ⟨q, hq, heq.symm⟩
  · contradiction

variable (free : GcdSpace → Span → Bool) (t : PciResourceType) (s s' : ExistingState)

theorem Kept.others (h : Kept bridge free t s s') (u : PciResourceType) (hut : u ≠ t) :
    s'.nodes u = s.nodes u := by
  cases h with
  | passed node hclaim hlease hnode heq =>
      rw [heq]
      exact nodes_setNode_of_ne _ t u node hut
  | claimed node x gcd hclaim hkept hgranted hlease heq =>
      rw [heq]
      exact nodes_setNode_of_ne _ t u node hut
  | lost x gcd ht hlost hgranted heq => rw [heq]

theorem Kept.settled (h : Kept bridge free t s s') (hblank : s.nodes t = .blank)
    (hstatus : (s'.nodes t).status ≠ .allocated) : s'.nodes t = .blank := by
  cases h with
  | passed node hclaim hlease hnode heq =>
      rw [heq, nodes_setNode_self] at hstatus ⊢
      exact hnode hstatus
  | claimed node x gcd hclaim hkept hgranted hlease heq =>
      rw [heq, nodes_setNode_self] at hstatus
      rw [TrackedNode.lease, if_neg fun hall => hstatus hall.2.1] at hlease
      contradiction
  | lost x gcd ht hlost hgranted heq => rw [heq, ← hblank]

theorem Kept.leased (base : Gcd) (h : Kept bridge free t s s') (hblank : s.nodes t = .blank)
    (hlost : t = .io → ¬ ClaimLost bridge free s.gcd)
    (hleased : Leased base s.gcd (s.lease bridge)) :
    Leased base s'.gcd (s'.lease bridge) ∧
      (s'.lease bridge t ≠ none ↔ Claimable bridge free t s.gcd) ∧
      (¬ Claimable bridge free t s.gcd → s'.gcd = s.gcd) := by
  have hnone : s.lease bridge t = none := by
    rw [ExistingState.lease, hblank, lease_blank]
  cases h with
  | passed node hclaim hlease hnode heq =>
      have hsame : s'.lease bridge = s.lease bridge := by
        rw [heq, lease_setNode, hlease, ← hnone, Function.update_eq_self]
      rw [hsame, hnone, heq]
      exact ⟨hleased, iff_of_false (not_not.mpr rfl) hclaim, fun _ => rfl⟩
  | claimed node x gcd hclaim hkept hgranted hlease heq =>
      obtain ⟨q, hq, rfl⟩ := eq_update_of_gcdAllocate free _ _ x _ _ hgranted
      have hnew : s'.lease bridge = Function.update (s.lease bridge) t
          (some (t.space, gcdRegion x (existingLength bridge t))) := by
        rw [heq, lease_setNode, hlease]
        rfl
      rw [hnew, Function.update_self, heq]
      exact ⟨hleased.take t t.space _ q hnone hq, iff_of_true (Option.some_ne_none _) hclaim,
        fun hnot => absurd hclaim hnot⟩
  | lost x gcd ht hlost' hgranted heq => exact absurd hlost' (hlost ht)

variable (frees : PciResourceType → GcdSpace → Span → Bool)

def keepLoop (l : List PciResourceType) (s : ExistingState) : Option ExistingState :=
  l.foldlM (fun s index => keepStep bridge (frees index) index s) s

/-- The GCD map that the claims of some apertures leave, one after the other. -/
def gcdAfterClaims (l : List PciResourceType) (gcd : Gcd) : Gcd :=
  l.foldl (fun gcd t => gcdAfterClaim bridge (frees t) t gcd) gcd

theorem keepLoop_cons (l : List PciResourceType) :
    keepLoop bridge frees (t :: l) s =
      (keepStep bridge (frees t) t s).bind (keepLoop bridge frees l) := by
  rw [keepLoop, List.foldlM_cons]
  rfl

theorem keepLoop_append (l l' : List PciResourceType) :
    keepLoop bridge frees (l ++ l') s =
      (keepLoop bridge frees l s).bind (keepLoop bridge frees l') := by
  rw [keepLoop, List.foldlM_append]
  rfl

theorem gcd_keepLoop {l : List PciResourceType} (hl : ∀ t ∈ l, t ∈ resourceTypes)
    {s s' : ExistingState} (h : keepLoop bridge frees l s = some s') :
    s'.gcd = gcdAfterClaims bridge frees l s.gcd := by
  induction l generalizing s with
  | nil =>
      obtain rfl : s = s' := Option.some.inj h
      rfl
  | cons t l ih =>
      rw [keepLoop_cons, Option.bind_eq_some_iff] at h
      obtain ⟨m, hstep, hrest⟩ := h
      rw [ih (fun u hu => hl u (List.mem_cons_of_mem t hu)) hrest,
        gcd_keepStep bridge (frees t) t s m (hl t List.mem_cons_self) hstep]
      rfl

/-- The state after claims for the types of `l`. -/
structure KeptAll (base : Gcd) (l : List PciResourceType) : Prop where
  leased : Leased base s'.gcd (s'.lease bridge)
  others : ∀ u, u ∉ l → s'.nodes u = s.nodes u
  settled : ∀ t ∈ l, (s'.nodes t).status ≠ .allocated → s'.nodes t = .blank
  leases : (∃ t ∈ l, s'.lease bridge t ≠ none) ↔ ∃ t ∈ l, Claimable bridge (frees t) t s.gcd

theorem keptAll_of_keepLoop (base : Gcd) (l : List PciResourceType)
    (hl : ∀ t ∈ l, t ∈ resourceTypes) (hnodup : l.Nodup) (hblank : ∀ t ∈ l, s.nodes t = .blank)
    (hleased : Leased base s.gcd (s.lease bridge))
    (hio : .io ∈ l → l.head? = some .io ∧ ¬ ClaimLost bridge (frees .io) s.gcd)
    (h : keepLoop bridge frees l s = some s') : KeptAll bridge s s' frees base l := by
  induction l generalizing s with
  | nil =>
      obtain rfl : s = s' := Option.some.inj h
      exact ⟨hleased, fun _ _ => rfl, List.forall_mem_nil _, iff_of_false (by simp) (by simp)⟩
  | cons t l ih =>
      rw [keepLoop_cons, Option.bind_eq_some_iff] at h
      obtain ⟨m, hstep, hrest⟩ := h
      rw [List.nodup_cons] at hnodup
      have hmem := hl t List.mem_cons_self
      have hblank_t := hblank t List.mem_cons_self
      have hkept := keepStep_kept bridge (frees t) t s m hmem hblank_t hstep
      have hlost : t = .io → ¬ ClaimLost bridge (frees t) s.gcd := by
        rintro rfl
        exact (hio List.mem_cons_self).2
      obtain ⟨hleased', hlease, hgcd⟩ := hkept.leased bridge (frees t) t s m base hblank_t hlost
        hleased
      have hall := ih m (fun u hu => hl u (List.mem_cons_of_mem t hu)) hnodup.2
        (fun u hu => by
          have hut : u ≠ t := fun heq => hnodup.1 (heq ▸ hu)
          rw [hkept.others bridge (frees t) t s m u hut]
          exact hblank u (List.mem_cons_of_mem t hu))
        hleased'
        (fun hu => by
          have hhead := (hio (List.mem_cons_of_mem t hu)).1
          rw [List.head?_cons] at hhead
          exact absurd (Option.some.inj hhead ▸ hu) hnodup.1)
        hrest
      have hnode : s'.nodes t = m.nodes t := hall.others t hnodup.1
      refine ⟨hall.leased, fun u hu => ?_, ?_, ?_⟩
      · rw [List.mem_cons, not_or] at hu
        rw [hall.others u hu.2, hkept.others bridge (frees t) t s m u hu.1]
      · rw [List.forall_mem_cons]
        refine ⟨fun hstatus => ?_, hall.settled⟩
        rw [hnode] at hstatus ⊢
        exact hkept.settled bridge (frees t) t s m hblank_t hstatus
      · rw [List.exists_mem_cons_iff, List.exists_mem_cons_iff, hall.leases]
        have hsame : s'.lease bridge t = m.lease bridge t := by
          rw [ExistingState.lease, hnode, ExistingState.lease]
        rw [hsame, hlease]
        by_cases hclaim : Claimable bridge (frees t) t s.gcd
        · exact iff_of_true (Or.inl hclaim) (Or.inl hclaim)
        · rw [hgcd hclaim]

end KeepRun

/-! The loop that frees. -/

def gcdFreeCall (status : EfiStatus) (region : GcdSpace × Span) : GcdFreeCall :=
  ⟨region.1, region.2, status⟩

section FreeRun

variable (bridge : PciHostBridge) (refusal : PciResourceType → Option EfiError)

section Step

variable (p : FreeProgress) (t : PciResourceType)

theorem freeStep_of_none (ht : t ≠ .bus) (hlease : p.state.lease bridge t = none)
    (hsettled : (p.state.nodes t).status ≠ .allocated → p.state.nodes t = .blank) :
    freeStep bridge refusal p t = .ok { p with state := p.state.setNode t .blank } := by
  rw [freeStep]
  dsimp only
  by_cases hstatus : (p.state.nodes t).status = .allocated
  · have htracked : (p.state.nodes t).resTracked = false := by
      rw [← Bool.not_eq_true]
      intro htracked
      rw [ExistingState.lease, TrackedNode.lease, if_pos ⟨ht, hstatus, htracked⟩] at hlease
      contradiction
    rw [if_pos hstatus, htracked, if_neg Bool.false_ne_true]
    rfl
  · rw [if_neg hstatus, ← hsettled hstatus, setNode_self]

theorem lease_cases (region : GcdSpace × Span) (hlease : p.state.lease bridge t = some region) :
    t ≠ .bus ∧ (p.state.nodes t).status = .allocated ∧ (p.state.nodes t).resTracked = true ∧
      region = (t.space, nodeRegion bridge t (p.state.nodes t).toPciResNode) := by
  rw [ExistingState.lease, TrackedNode.lease] at hlease
  split at hlease
  · next h => exact ⟨h.1, h.2.1, h.2.2, (Option.some.inj hlease).symm⟩
  · contradiction

theorem freeStep_of_refused (region : GcdSpace × Span) (e : EfiError)
    (hlease : p.state.lease bridge t = some region) (hrefusal : refusal t = some e) :
    freeStep bridge refusal p t =
      .error
        { p with status := .error e, calls := p.calls ++ [gcdFreeCall (.error e) region] } := by
  obtain ⟨ht, hstatus, htracked, rfl⟩ := lease_cases bridge p t region hlease
  rw [freeStep]
  dsimp only
  rw [if_pos hstatus, if_pos htracked, freeTracked, if_neg ht, hrefusal]
  rfl

theorem freeStep_of_lease (base : Gcd) (region : GcdSpace × Span)
    (hleased : Leased base p.state.gcd (p.state.lease bridge))
    (hlease : p.state.lease bridge t = some region) (hrefusal : refusal t = none) :
    ∃ gcd, freeStep bridge refusal p t =
        .ok ⟨.ok (), p.calls ++ [gcdFreeCall (.ok ()) region],
          { p.state with gcd := gcd }.setNode t .blank⟩ ∧
      Leased base gcd (Function.update (p.state.lease bridge) t none) := by
  obtain ⟨ht, hstatus, htracked, rfl⟩ := lease_cases bridge p t region hlease
  obtain ⟨q, hq, hleased'⟩ := hleased.giveBack t _ _ hlease
  refine ⟨Function.update p.state.gcd t.space q, ?_, hleased'⟩
  have hfree : gcdFree t.space (gcdBase bridge t (p.state.nodes t).base) (p.state.nodes t).length
      p.state.gcd = .ok (Function.update p.state.gcd t.space q) := by
    rw [gcdFree, ← nodeRegion, hq]
  rw [freeStep]
  dsimp only
  rw [if_pos hstatus, if_pos htracked, freeTracked, if_neg ht, hrefusal]
  dsimp only
  rw [hfree]
  rfl

end Step

variable (s : ExistingState) (leftover : EfiStatus)

def freeLoop (l : List PciResourceType) : Except FreeProgress FreeProgress :=
  l.foldlM (freeStep bridge refusal) ⟨leftover, [], s⟩

theorem freeLoop_concat (l : List PciResourceType) (t : PciResourceType) :
    freeLoop bridge refusal s leftover (l ++ [t]) =
      (freeLoop bridge refusal s leftover l).bind fun p => freeStep bridge refusal p t := by
  rw [freeLoop, List.foldlM_append]
  change Except.bind _ _ = Except.bind _ _
  congr 1
  funext p
  rw [List.foldlM_cons]
  change Except.bind _ _ = _
  cases freeStep bridge refusal p t <;> rfl

/-- The calls for the leases of `l`. -/
def freeCalls (l : List PciResourceType) : List GcdFreeCall :=
  (l.filterMap (s.lease bridge)).map (gcdFreeCall (.ok ()))

theorem freeCalls_concat (l : List PciResourceType) (t : PciResourceType) :
    freeCalls bridge s (l ++ [t]) =
      freeCalls bridge s l ++ ((s.lease bridge t).map (gcdFreeCall (.ok ()))).toList := by
  rw [freeCalls, List.filterMap_append, List.map_append, freeCalls]
  cases h : s.lease bridge t <;> simp [h]

/-- The loop has freed every lease of `l`. -/
structure FreedAll (base : Gcd) (l : List PciResourceType) (p : FreeProgress) : Prop where
  leased : Leased base p.state.gcd (p.state.lease bridge)
  blank : ∀ t ∈ l, p.state.nodes t = .blank
  others : ∀ t, t ∉ l → p.state.nodes t = s.nodes t
  calls : p.calls = freeCalls bridge s l
  status : p.status = if freeCalls bridge s l = [] then leftover else .ok ()

/-- The GCD has refused to free a lease of `l`, all leases before it being freed. -/
def FreeRefused (l : List PciResourceType) (p : FreeProgress) : Prop :=
  ∃ l₁ t l₂ region e, l = l₁ ++ t :: l₂ ∧ s.lease bridge t = some region ∧ refusal t = some e ∧
    p.status = .error e ∧ p.calls = freeCalls bridge s l₁ ++ [gcdFreeCall (.error e) region]

theorem freeRefused_concat (l : List PciResourceType) (t : PciResourceType) (p : FreeProgress)
    (h : FreeRefused bridge refusal s l p) : FreeRefused bridge refusal s (l ++ [t]) p := by
  obtain ⟨l₁, u, l₂, region, e, rfl, hrest⟩ := h
  exact ⟨l₁, u, l₂ ++ [t], region, e, by simp, hrest⟩

theorem FreedAll.concat (base : Gcd) (l : List PciResourceType) (t : PciResourceType)
    (p q : FreeProgress) (h : FreedAll bridge s leftover base l p)
    (hnodes : q.state.nodes = Function.update p.state.nodes t .blank)
    (hleased : Leased base q.state.gcd (Function.update (p.state.lease bridge) t none))
    (hcalls : q.calls = freeCalls bridge s (l ++ [t]))
    (hstatus : q.status = if freeCalls bridge s (l ++ [t]) = [] then leftover else .ok ()) :
    FreedAll bridge s leftover base (l ++ [t]) q where
  leased := by
    have hsame : q.state.lease bridge = (p.state.setNode t .blank).lease bridge := by
      funext u
      rw [ExistingState.lease, hnodes]
      rfl
    rw [hsame, lease_setNode, lease_blank]
    exact hleased
  blank := fun u hu => by
    rw [hnodes]
    by_cases hut : u = t
    · rw [hut, Function.update_self]
    · have hul : u ∈ l := (List.mem_append.mp hu).resolve_right
        fun h => hut (List.mem_singleton.mp h)
      rw [Function.update_of_ne hut, h.blank u hul]
  others := fun u hu => by
    rw [List.mem_append, not_or, List.mem_singleton] at hu
    rw [hnodes, Function.update_of_ne hu.2, h.others u hu.1]
  calls := hcalls
  status := hstatus

theorem freeLoop_cases (base : Gcd) (l : List PciResourceType) (hl : ∀ t ∈ l, t ≠ .bus)
    (hnodup : l.Nodup) (hleased : Leased base s.gcd (s.lease bridge))
    (hsettled : ∀ t ∈ l, (s.nodes t).status ≠ .allocated → s.nodes t = .blank) :
    (∃ p, freeLoop bridge refusal s leftover l = .ok p ∧
        FreedAll bridge s leftover base l p) ∨
      ∃ p, freeLoop bridge refusal s leftover l = .error p ∧ FreeRefused bridge refusal s l p := by
  induction l using List.reverseRecOn with
  | nil =>
      exact Or.inl ⟨_, rfl, hleased, List.forall_mem_nil _, fun _ _ => rfl, rfl,
        (if_pos rfl).symm⟩
  | append_singleton l t ih =>
      rw [List.nodup_append_comm, List.singleton_append, List.nodup_cons] at hnodup
      have hmem : t ∈ l ++ [t] := List.mem_append_right l (List.mem_singleton_self t)
      rcases ih (fun u hu => hl u (List.mem_append_left _ hu)) hnodup.2
        (fun u hu => hsettled u (List.mem_append_left _ hu)) with
        ⟨p, hrun, hfreed⟩ | ⟨p, hrun, hrefused⟩
      · have hnode : p.state.nodes t = s.nodes t := hfreed.others t hnodup.1
        have hsame : p.state.lease bridge t = s.lease bridge t := by
          rw [ExistingState.lease, hnode, ExistingState.lease]
        rw [freeLoop_concat, hrun]
        change (∃ q, freeStep bridge refusal p t = .ok q ∧ _) ∨
          ∃ q, freeStep bridge refusal p t = .error q ∧ _
        cases hlease : s.lease bridge t with
        | none =>
            have hcalls : freeCalls bridge s (l ++ [t]) = freeCalls bridge s l := by
              rw [freeCalls_concat, hlease]
              exact List.append_nil _
            have hstep := freeStep_of_none bridge refusal p t (hl t hmem) (hsame.trans hlease)
              (by rw [hnode]; exact hsettled t hmem)
            refine Or.inl ⟨_, hstep, hfreed.concat bridge s leftover base l t p _ rfl ?_ ?_ ?_⟩
            · rw [← hlease, ← hsame, Function.update_eq_self]
              exact hfreed.leased
            · rw [hcalls]
              exact hfreed.calls
            · rw [hcalls]
              exact hfreed.status
        | some region =>
            cases hrefusal : refusal t with
            | some e =>
                have hstep := freeStep_of_refused bridge refusal p t region e
                  (hsame.trans hlease) hrefusal
                refine Or.inr ⟨_, hstep, l, t, [], region, e, rfl, hlease, hrefusal, rfl, ?_⟩
                exact congrArg (· ++ _) hfreed.calls
            | none =>
                obtain ⟨gcd, hstep, hleased'⟩ := freeStep_of_lease bridge refusal p t base region
                  hfreed.leased (hsame.trans hlease) hrefusal
                have hcalls : freeCalls bridge s (l ++ [t]) =
                    freeCalls bridge s l ++ [gcdFreeCall (.ok ()) region] := by
                  rw [freeCalls_concat, hlease]
                  rfl
                refine Or.inl ⟨_, hstep, hfreed.concat bridge s leftover base l t p _ rfl hleased'
                  ?_ ?_⟩
                · rw [hcalls]
                  exact congrArg (· ++ _) hfreed.calls
                · rw [hcalls, if_neg (by simp)]
      · refine Or.inr ⟨p, ?_, freeRefused_concat bridge refusal s l t p hrefused⟩
        rw [freeLoop_concat, hrun]
        rfl

end FreeRun

/-! Keeping, then freeing. -/

/-- The apertures of a root bridge, what other owners leave free at each claim, and the
regions held. -/
structure ExistingConfig where
  bridge : PciHostBridge
  free : PciResourceType → GcdSpace → Span → Bool
  gcd : Gcd

def Taken (gcd gcd' : Gcd) (space : GcdSpace) (span : Span) : Prop :=
  span ∈ (gcd' space).held ∧ span ∉ (gcd space).held

/-- A run that frees what came to be held in `s` and says so: an error comes from a GCD
call, no region is freed twice and none but those taken, and without a failed call all
of them are, and nodes and map are as they were. -/
structure Undone (gcd : Gcd) (s : ExistingState) (p : FreeProgress) : Prop where
  error : ∀ e, p.status = .error e → ∃ c ∈ p.calls, c.status ≠ .ok ()
  once : (p.calls.map fun c => (c.space, c.region)).Nodup
  only : ∀ c ∈ p.calls, Taken gcd s.gcd c.space c.region
  all : (∀ c ∈ p.calls, c.status = .ok ()) → ∀ space span, Taken gcd s.gcd space span →
    ∃ c ∈ p.calls, c.space = space ∧ c.region = span
  nodes : (∀ c ∈ p.calls, c.status = .ok ()) → p.state.nodes = (createdState gcd).nodes
  held : (∀ c ∈ p.calls, c.status = .ok ()) → ∀ space span,
    span ∈ (p.state.gcd space).held ↔ span ∈ (gcd space).held

/-- Keeping returns, and freeing undoes it, whatever the GCD refuses to free and the
uninitialised status holds. -/
def CancelOut (c : ExistingConfig) : Prop :=
  ∃ s, hostBridgeKeepExistingConfig c.bridge c.free (createdState c.gcd) = some s ∧
    ∀ refusal leftover, Undone c.gcd s (hostBridgeFreeExistingConfig c.bridge refusal leftover s)

/-- No search goes on for ever, no claim is lost, and a bus range is not all that is
tracked. -/
structure Cancelling (c : ExistingConfig) : Prop where
  ends : ∀ l t l', resourceTypes = l ++ t :: l' → Backed c.bridge t → Unstopped c.bridge t →
    (existingSearch c.bridge t).Obtains (existingLength c.bridge t) (c.free t) t.space
      (gcdAfterClaims c.bridge c.free l c.gcd)
  kept : ¬ ClaimLost c.bridge (c.free .io) c.gcd
  bus : BusTracked c.bridge → ∃ t ∈ resourceTypes, Claimable c.bridge (c.free t) t c.gcd

section Cancel

variable (bridge : PciHostBridge)

theorem mem_resourceTypes (t : PciResourceType) (ht : t ≠ .bus) : t ∈ resourceTypes := by
  cases t <;> first | exact absurd rfl ht | decide

theorem ne_bus_of_mem (t : PciResourceType) (ht : t ∈ resourceTypes) : t ≠ .bus := by
  rintro rfl
  exact absurd ht (by decide)

theorem lease_created (gcd : Gcd) : (createdState gcd).lease bridge = fun _ => none :=
  funext fun t => lease_blank bridge t

/-- The state once all apertures are claimed, over what is held in `base`. -/
structure Finished (base : Gcd) (s : ExistingState) : Prop where
  leased : Leased base s.gcd (s.lease bridge)
  settled : ∀ t, (s.nodes t).status ≠ .allocated → s.nodes t = .blank
  bus : ((s.nodes .bus).status = .allocated ∧ (s.nodes .bus).resTracked = true) ↔ BusTracked bridge

theorem finished_of_keptAll (free : PciResourceType → GcdSpace → Span → Bool)
    (gcd base : Gcd) (l : List PciResourceType) (hl : .bus ∉ l) (m s : ExistingState)
    (hkept : KeptAll bridge (createdState gcd) m free base l)
    (h : keepStep bridge (free .bus) .bus m = some s) :
    Finished bridge base s ∧ s.lease bridge = m.lease bridge := by
  have hblank : m.nodes .bus = .blank := hkept.others .bus hl
  obtain ⟨node, hstep, htracked, hnode⟩ := keepStep_bus bridge (free .bus) m hblank
  obtain rfl : m.setNode .bus node = s := Option.some.inj (hstep.symm.trans h)
  have hlease : (m.setNode .bus node).lease bridge = m.lease bridge := by
    have hnone : m.lease bridge .bus = none := lease_bus bridge _
    rw [lease_setNode, lease_bus, ← hnone, Function.update_eq_self]
  refine ⟨⟨?_, fun t hstatus => ?_, ?_⟩, hlease⟩
  · rw [hlease]
    exact hkept.leased
  · by_cases ht : t = .bus
    · rw [ht, nodes_setNode_self] at hstatus ⊢
      exact hnode hstatus
    · rw [nodes_setNode_of_ne _ _ _ _ ht] at hstatus ⊢
      by_cases htl : t ∈ l
      · exact hkept.settled t htl hstatus
      · exact hkept.others t htl
  · rw [nodes_setNode_self]
    exact htracked

inductive FreeReturn (refusal : PciResourceType → Option EfiError) (leftover : EfiStatus)
    (base : Gcd) (s : ExistingState) (p : FreeProgress) : Prop
  | refused (h : FreeRefused bridge refusal s resourceTypes p)
  | spurious (hbus : BusTracked bridge) (hcalls : freeCalls bridge s resourceTypes = [])
      (hnone : p.calls = []) (e : EfiError) (hleft : leftover = .error e)
      (hstatus : p.status = .error e)
  | done (hcalls : p.calls = freeCalls bridge s resourceTypes) (hstatus : p.status = .ok ())
      (hnodes : p.state.nodes = fun _ => .blank)
      (hheld : ∀ space span, span ∈ (p.state.gcd space).held ↔ span ∈ (base space).held)
      (hbus : BusTracked bridge → freeCalls bridge s resourceTypes = [] → leftover = .ok ())

/-- Freeing that comes to the bus node and resets it leaves nothing to free. -/
theorem freeReturn_done (refusal : PciResourceType → Option EfiError) (leftover : EfiStatus)
    (base : Gcd) (s : ExistingState) (p : FreeProgress)
    (hfreed : FreedAll bridge s leftover base resourceTypes p)
    (hbus : BusTracked bridge → freeCalls bridge s resourceTypes = [] → leftover = .ok ()) :
    FreeReturn bridge refusal leftover base s
      ⟨.ok (), p.calls, p.state.setNode .bus .blank⟩ := by
  have hnodes : (p.state.setNode .bus .blank).nodes = fun _ => .blank := by
    funext t
    by_cases ht : t = .bus
    · rw [ht, nodes_setNode_self]
    · rw [nodes_setNode_of_ne _ _ _ _ ht, hfreed.blank t (mem_resourceTypes t ht)]
  have hleases (t : PciResourceType) : p.state.lease bridge t = none := by
    by_cases ht : t = .bus
    · rw [ht, ExistingState.lease, lease_bus]
    · rw [ExistingState.lease, hfreed.blank t (mem_resourceTypes t ht), lease_blank]
  exact .done hfreed.calls rfl hnodes (hfreed.leased.held_iff_of_none hleases) hbus

theorem freeReturn (refusal : PciResourceType → Option EfiError) (leftover : EfiStatus)
    (base : Gcd) (s : ExistingState) (h : Finished bridge base s) :
    FreeReturn bridge refusal leftover base s
      (hostBridgeFreeExistingConfig bridge refusal leftover s) := by
  have hrun : nodeTypes.foldlM (freeStep bridge refusal) ⟨leftover, [], s⟩ =
      (freeLoop bridge refusal s leftover resourceTypes).bind
        fun p => freeStep bridge refusal p .bus :=
    freeLoop_concat bridge refusal s leftover resourceTypes .bus
  rw [hostBridgeFreeExistingConfig, hrun]
  rcases freeLoop_cases bridge refusal s leftover base resourceTypes ne_bus_of_mem (by decide)
    h.leased (fun t _ => h.settled t) with ⟨p, hloop, hfreed⟩ | ⟨p, hloop, hrefused⟩
  · have hnode : p.state.nodes .bus = s.nodes .bus := hfreed.others .bus (by decide)
    have hdone := freeReturn_done bridge refusal leftover base s p hfreed
    rw [hloop, Except.bind.eq_def]
    dsimp only
    rw [freeStep, hnode]
    dsimp only
    by_cases hstatus : (s.nodes .bus).status = .allocated
    · rw [if_pos hstatus]
      cases htracked : (s.nodes .bus).resTracked with
      | false =>
          rw [if_neg Bool.false_ne_true]
          refine hdone fun hbus => ?_
          have hno := (h.bus.mpr hbus).2
          rw [htracked] at hno
          contradiction
      | true =>
          have hbus := h.bus.mp ⟨hstatus, htracked⟩
          rw [if_pos rfl, freeTracked, if_pos rfl]
          have hleft := hfreed.status
          cases hp : p.status with
          | error e =>
              rw [hp] at hleft
              by_cases hcalls : freeCalls bridge s resourceTypes = []
              · rw [if_pos hcalls] at hleft
                exact .spurious hbus hcalls (hfreed.calls.trans hcalls) e hleft.symm hp
              · rw [if_neg hcalls] at hleft
                contradiction
          | ok u =>
              rw [hp] at hleft
              refine hdone fun _ hcalls => ?_
              rw [if_pos hcalls] at hleft
              exact hleft.symm
    · rw [if_neg hstatus]
      have hsame : p.state = p.state.setNode .bus .blank := by
        rw [← h.settled .bus hstatus, ← hnode, setNode_self]
      have hreturn := hdone fun hbus => absurd (h.bus.mpr hbus).1 hstatus
      rw [← hsame] at hreturn
      exact hreturn
  · rw [hloop]
    exact .refused hrefused

section Undo

variable (gcd : Gcd) (s : ExistingState) (h : Finished bridge gcd s)

theorem regions_freeCalls (l : List PciResourceType) :
    (freeCalls bridge s l).map (fun c => (c.space, c.region)) = l.filterMap (s.lease bridge) := by
  rw [freeCalls, List.map_map]
  exact List.map_id _

include h

theorem nodup_regions (l : List PciResourceType) (hl : l.Nodup) :
    (l.filterMap (s.lease bridge)).Nodup :=
  hl.filterMap fun t u region ht hu => h.leased.single t u region ht hu

theorem taken_of_mem_regions (l : List PciResourceType) (region : GcdSpace × Span)
    (hmem : region ∈ l.filterMap (s.lease bridge)) : Taken gcd s.gcd region.1 region.2 := by
  obtain ⟨t, -, ht⟩ := List.mem_filterMap.mp hmem
  exact (h.leased.taken_iff region.1 region.2).mpr ⟨t, ht⟩

/-- Freeing undoes what was claimed, unless the bus range is all that is tracked. -/
theorem undone_of_finished (hbus : BusTracked bridge → freeCalls bridge s resourceTypes ≠ [])
    (refusal : PciResourceType → Option EfiError) (leftover : EfiStatus) :
    Undone gcd s (hostBridgeFreeExistingConfig bridge refusal leftover s) := by
  cases freeReturn bridge refusal leftover gcd s h with
  | refused hrefused =>
      obtain ⟨l₁, t, l₂, region, e, hsplit, hlease, -, hstatus, hcalls⟩ := hrefused
      have hregions : (hostBridgeFreeExistingConfig bridge refusal leftover s).calls.map
          (fun c => (c.space, c.region)) = (l₁ ++ [t]).filterMap (s.lease bridge) := by
        rw [hcalls, List.map_append, regions_freeCalls, List.filterMap_append]
        simp [hlease, gcdFreeCall]
      have hnodup : (l₁ ++ [t]).Nodup := by
        have hall : resourceTypes.Nodup := by decide
        rw [hsplit, List.append_cons] at hall
        exact (List.nodup_append.mp hall).1
      have hfailed : ∃ c ∈ (hostBridgeFreeExistingConfig bridge refusal leftover s).calls,
          c.status ≠ .ok () := by
        rw [hcalls]
        exact ⟨_, List.mem_append_right _ (List.mem_singleton_self _), by simp [gcdFreeCall]⟩
      have hnot (hall : ∀ c ∈ (hostBridgeFreeExistingConfig bridge refusal leftover s).calls,
          c.status = .ok ()) : False := by
        obtain ⟨c, hc, hne⟩ := hfailed
        exact hne (hall c hc)
      refine ⟨fun _ _ => hfailed, ?_, fun c hc => ?_, fun hall => (hnot hall).elim,
        fun hall => (hnot hall).elim, fun hall => (hnot hall).elim⟩
      · rw [hregions]
        exact nodup_regions bridge gcd s h _ hnodup
      · refine taken_of_mem_regions bridge gcd s h (l₁ ++ [t]) (c.space, c.region) ?_
        rw [← hregions]
        exact List.mem_map_of_mem hc
  | spurious hbus' hcalls hnone e hleft hstatus => exact absurd hcalls (hbus hbus')
  | done hcalls hstatus hnodes hheld hleftover =>
      have hregions := regions_freeCalls bridge s resourceTypes
      rw [← hcalls] at hregions
      refine ⟨fun e he => ?_, ?_, fun c hc => ?_, fun _ space span htaken => ?_, fun _ => hnodes,
        fun _ => hheld⟩
      · rw [hstatus] at he
        contradiction
      · rw [hregions]
        exact nodup_regions bridge gcd s h _ (by decide)
      · refine taken_of_mem_regions bridge gcd s h resourceTypes (c.space, c.region) ?_
        rw [← hregions]
        exact List.mem_map_of_mem hc
      · obtain ⟨t, ht⟩ := (h.leased.taken_iff space span).mp htaken
        have hmem : (space, span) ∈ resourceTypes.filterMap (s.lease bridge) := by
          refine List.mem_filterMap.mpr ⟨t, mem_resourceTypes t ?_, ht⟩
          rintro rfl
          rw [ExistingState.lease, lease_bus] at ht
          contradiction
        rw [← hregions] at hmem
        obtain ⟨c, hc, heq⟩ := List.mem_map.mp hmem
        obtain ⟨hspace, hregion⟩ := Prod.mk.inj heq
        exact ⟨c, hc, hspace, hregion⟩

end Undo

theorem freeCalls_eq_nil_iff (s : ExistingState) (l : List PciResourceType) :
    freeCalls bridge s l = [] ↔ ¬ ∃ t ∈ l, s.lease bridge t ≠ none := by
  rw [freeCalls, List.map_eq_nil_iff, List.filterMap_eq_nil_iff]
  simp only [not_exists, not_and, not_not]

/-- A state with all apertures claimed comes from one before the bus range. -/
theorem keepExistingConfig_eq_some_iff (free : PciResourceType → GcdSpace → Span → Bool)
    (s₀ s : ExistingState) :
    hostBridgeKeepExistingConfig bridge free s₀ = some s ↔
      ∃ m, keepLoop bridge free resourceTypes s₀ = some m ∧
        keepStep bridge (free .bus) .bus m = some s := by
  have hsplit : hostBridgeKeepExistingConfig bridge free s₀ =
      (keepLoop bridge free resourceTypes s₀).bind (keepLoop bridge free [.bus]) :=
    keepLoop_append bridge s₀ free resourceTypes [.bus]
  have hlast (m : ExistingState) :
      keepLoop bridge free [.bus] m = keepStep bridge (free .bus) .bus m := by
    rw [keepLoop_cons]
    cases keepStep bridge (free .bus) .bus m <;> rfl
  rw [hsplit, Option.bind_eq_some_iff]
  simp only [hlast]

end Cancel

section Main

variable (c : ExistingConfig)

theorem keptAll_of_not_lost (hkept : ¬ ClaimLost c.bridge (c.free .io) c.gcd) (m : ExistingState)
    (h : keepLoop c.bridge c.free resourceTypes (createdState c.gcd) = some m) :
    KeptAll c.bridge (createdState c.gcd) m c.free c.gcd resourceTypes := by
  apply keptAll_of_keepLoop c.bridge (createdState c.gcd) m c.free c.gcd resourceTypes
    (fun _ ht => ht) (by decide) (fun _ _ => rfl) _ (fun _ => ⟨rfl, hkept⟩) h
  rw [lease_created]
  exact Leased.refl c.gcd

/-- Claiming comes to every aperture when no search before goes on for ever. -/
theorem exists_keepLoop
    (hends : ∀ l t l', resourceTypes = l ++ t :: l' →
      ∀ s, keepLoop c.bridge c.free l (createdState c.gcd) = some s →
        keepStep c.bridge (c.free t) t s ≠ none)
    (l l' : List PciResourceType) (h : resourceTypes = l ++ l') :
    ∃ s, keepLoop c.bridge c.free l (createdState c.gcd) = some s := by
  induction l using List.reverseRecOn generalizing l' with
  | nil => exact ⟨_, rfl⟩
  | append_singleton l t ih =>
      have hsplit : resourceTypes = l ++ t :: l' := by
        rw [h, List.append_assoc, List.singleton_append]
      obtain ⟨s, hs⟩ := ih (t :: l') hsplit
      obtain ⟨s', hs'⟩ := Option.ne_none_iff_exists'.mp (hends l t l' hsplit s hs)
      refine ⟨s', ?_⟩
      rw [keepLoop_append, hs, Option.bind_some, keepLoop_cons, hs']
      rfl

theorem keepStep_ne_none_iff (t : PciResourceType) (ht : t ∈ resourceTypes) (s : ExistingState) :
    keepStep c.bridge (c.free t) t s ≠ none ↔
      (Backed c.bridge t → Unstopped c.bridge t →
        (existingSearch c.bridge t).Obtains (existingLength c.bridge t) (c.free t) t.space
          s.gcd) := by
  rw [ne_eq, keepStep_eq_none_iff c.bridge (c.free t) t s ht, ends_existingSearch_iff, not_and,
    not_not, ← imp_iff_not_or]

theorem not_lost_of_cancelOut (h : CancelOut c) : ¬ ClaimLost c.bridge (c.free .io) c.gcd := by
  intro hlost
  obtain ⟨s, hkeep, hundone⟩ := h
  obtain ⟨m, hloop, hbus⟩ := (keepExistingConfig_eq_some_iff c.bridge c.free _ s).mp hkeep
  rw [resourceTypes, keepLoop_cons, Option.bind_eq_some_iff] at hloop
  obtain ⟨m₀, hstep, hloop⟩ := hloop
  cases keepStep_kept c.bridge (c.free .io) .io _ m₀ (by decide) rfl hstep with
  | passed node hclaim hlease hnode heq =>
      obtain ⟨hbacked, x, hfinds, -⟩ := hlost
      exact hclaim ⟨hbacked, x, hfinds.asks, hfinds.grantable⟩
  | claimed node x gcd hclaim hkept hgranted hlease heq => exact hkept rfl hlost
  | lost x gcd ht hlost' hgranted heq =>
      subst heq
      have hkept := keptAll_of_keepLoop c.bridge (createdState gcd) m c.free gcd
        [.mem32, .pMem32, .mem64, .pMem64] (by decide) (by decide) (fun _ _ => rfl)
        (by rw [lease_created]; exact Leased.refl gcd) (fun hio => absurd hio (by decide)) hloop
      have hfinished := (finished_of_keptAll c.bridge c.free gcd gcd _ (by decide) m s hkept hbus).1
      have hheld := (held_of_gcdAllocate _ _ _ x _ gcd hgranted .io _).mpr (Or.inl ⟨rfl, rfl⟩)
      have htaken : Taken c.gcd s.gcd .io (gcdRegion x (existingLength c.bridge .io)) := by
        refine ⟨(hfinished.leased.held .io _).mpr (Or.inl hheld), fun hmem => ?_⟩
        have hfree := (grantable_of_gcdAllocate _ _ _ x _ gcd hgranted).2
        exact HeldSpans.not_disjoint_self _ hfree.1.1 (hfree.2 _ hmem)
      have hun := hundone (fun _ => none) (.ok ())
      cases freeReturn c.bridge (fun _ => none) (.ok ()) gcd s hfinished with
      | refused hrefused =>
          obtain ⟨_, _, _, _, _, _, _, hnone, _⟩ := hrefused
          contradiction
      | spurious _ _ _ e hleft _ => contradiction
      | done hcalls _ _ _ _ =>
          have hok : ∀ call ∈ freeCalls c.bridge s resourceTypes, call.status = .ok () := by
            intro call hcall
            obtain ⟨region, -, rfl⟩ := List.mem_map.mp hcall
            rfl
          rw [← hcalls] at hok
          obtain ⟨call, hcall, hspace, hregion⟩ := hun.all hok .io _ htaken
          rw [hcalls] at hcall
          have hmem := List.mem_map_of_mem (f := fun c => (c.space, c.region)) hcall
          rw [regions_freeCalls, hspace, hregion] at hmem
          obtain ⟨t, -, ht⟩ := List.mem_filterMap.mp hmem
          exact hfinished.leased.fresh t .io _ ht hheld

end Main

/-- Keeping and freeing cancel out if and only if no search goes on for ever, no claim is
lost, and there is a region to free before the bus range. -/
theorem cancelOut_iff (c : ExistingConfig) : CancelOut c ↔ Cancelling c := by
  constructor
  · intro h
    have hkept := not_lost_of_cancelOut c h
    obtain ⟨s, hkeep, hundone⟩ := h
    obtain ⟨m, hloop, hbus⟩ := (keepExistingConfig_eq_some_iff c.bridge c.free _ s).mp hkeep
    refine ⟨fun l t l' hsplit => ?_, hkept, fun htracked => ?_⟩
    · rw [hsplit, keepLoop_append, Option.bind_eq_some_iff] at hloop
      obtain ⟨s₁, hs₁, hrest⟩ := hloop
      have hgcd : s₁.gcd = gcdAfterClaims c.bridge c.free l c.gcd :=
        gcd_keepLoop c.bridge c.free (fun u hu => hsplit ▸ List.mem_append_left _ hu) hs₁
      rw [← hgcd]
      refine (keepStep_ne_none_iff c t (hsplit ▸ by simp) s₁).mp fun hnone => ?_
      rw [keepLoop_cons, hnone] at hrest
      contradiction
    · by_contra hnone
      have hall := keptAll_of_not_lost c hkept m hloop
      obtain ⟨hfinished, hlease⟩ := finished_of_keptAll c.bridge c.free c.gcd c.gcd _ (by decide)
        m s hall hbus
      have hcalls : freeCalls c.bridge s resourceTypes = [] := by
        rw [freeCalls_eq_nil_iff, hlease, hall.leases]
        exact hnone
      have hun := hundone (fun _ => none) (.error .notFound)
      cases freeReturn c.bridge (fun _ => none) (.error .notFound) c.gcd s hfinished with
      | refused hrefused =>
          obtain ⟨_, _, _, _, _, _, _, hno, _⟩ := hrefused
          contradiction
      | spurious _ _ hempty e _ hstatus =>
          obtain ⟨call, hcall, -⟩ := hun.error e hstatus
          rw [hempty] at hcall
          exact List.not_mem_nil hcall
      | done _ _ _ _ hleft => exact absurd (hleft htracked hcalls) (by simp)
  · intro h
    have hends : ∀ l t l', resourceTypes = l ++ t :: l' →
        ∀ s, keepLoop c.bridge c.free l (createdState c.gcd) = some s →
          keepStep c.bridge (c.free t) t s ≠ none := by
      intro l t l' hsplit s hs
      have hgcd : s.gcd = gcdAfterClaims c.bridge c.free l c.gcd :=
        gcd_keepLoop c.bridge c.free (fun u hu => hsplit ▸ List.mem_append_left _ hu) hs
      exact (keepStep_ne_none_iff c t (hsplit ▸ by simp) s).mpr (hgcd ▸ h.ends l t l' hsplit)
    obtain ⟨m, hloop⟩ := exists_keepLoop c hends resourceTypes [] (List.append_nil _).symm
    have hall := keptAll_of_not_lost c h.kept m hloop
    obtain ⟨node, hstep, -⟩ := keepStep_bus c.bridge (c.free .bus) m (hall.others .bus (by decide))
    obtain ⟨hfinished, hlease⟩ := finished_of_keptAll c.bridge c.free c.gcd c.gcd _ (by decide)
      m _ hall hstep
    refine ⟨_, (keepExistingConfig_eq_some_iff c.bridge c.free _ _).mpr ⟨m, hloop, hstep⟩, ?_⟩
    intro refusal leftover
    refine undone_of_finished c.bridge c.gcd _ hfinished (fun htracked hcalls => ?_) refusal
      leftover
    rw [freeCalls_eq_nil_iff, hlease, hall.leases] at hcalls
    exact hcalls (h.bus htracked)

/-- A root bridge with buses and no other aperture. -/
def busesOnlyConfig : ExistingConfig where
  bridge :=
    { rootBridgeAlloc busesOnlyNode.dtIo 1 with
      configReg := ⟨0x40000000, 0x40000000, 0x10000000, none⟩
      busRange := rootBridgeBusRange 0 255
      keepExistingConfig := true }
  free := fun _ _ _ => true
  gcd := fun _ => HeldSpans.empty (2 ^ 64)

/-- Freeing it returns what the status variable held before. -/
theorem busesOnly_not_cancelOut : ¬ CancelOut busesOnlyConfig := by
  rintro ⟨s, hkeep, hundone⟩
  have hstate : hostBridgeKeepExistingConfig busesOnlyConfig.bridge busesOnlyConfig.free
      (createdState busesOnlyConfig.gcd) =
        some ((createdState busesOnlyConfig.gcd).setNode .bus
          ⟨⟨0, 256, 0, .allocated⟩, true⟩) := rfl
  rw [hstate] at hkeep
  obtain rfl := Option.some.inj hkeep
  obtain ⟨call, hcall, -⟩ := (hundone (fun _ => none) (.error .notFound)).error .notFound rfl
  exact List.not_mem_nil hcall

end FdtBusPkg
