import FdtBusPkg.Pci.AllocatePhase
import FdtBusPkg.Pci.Ranges

/-!
Ownership of PCI resources over whole runs of the host bridge protocol. The
regions held in the GCD are those of the allocated nodes as long as no call
overwrites an allocated node and no region is granted whose host address is the
value that stands for a failure.
-/
namespace FdtBusPkg

/-! The invariant. -/

/-- The driver holds exactly the regions of its allocated memory and I/O nodes, and
these are disjoint. -/
structure Owned (bridge : PciHostBridge) (s : HostBridgeState) : Prop where
  held : ∀ space span, span ∈ (s.gcd space).held ↔
    ∃ t ∈ resourceTypes, t.space = space ∧ s.Allocated t ∧
      span = nodeRegion bridge t (s.nodes t)
  disjoint : ∀ t ∈ resourceTypes, ∀ u ∈ resourceTypes, t ≠ u → t.space = u.space →
    s.Allocated t → s.Allocated u →
    Span.Disjoint (nodeRegion bridge t (s.nodes t)) (nodeRegion bridge u (s.nodes u))

section Invariant

variable (bridge : PciHostBridge)

theorem owned_of_same_regions (s s' : HostBridgeState) (h : Owned bridge s)
    (hgcd : s'.gcd = s.gcd)
    (hnodes : ∀ t ∈ resourceTypes, (s'.Allocated t ↔ s.Allocated t) ∧
      (s.Allocated t → s'.nodes t = s.nodes t)) :
    Owned bridge s' := by
  constructor
  · intro space span
    rw [hgcd, h.held space span]
    constructor
    · rintro ⟨t, ht, hspace, halloc, rfl⟩
      obtain ⟨hiff, hnode⟩ := hnodes t ht
      exact ⟨t, ht, hspace, hiff.mpr halloc, by rw [hnode halloc]⟩
    · rintro ⟨t, ht, hspace, halloc, rfl⟩
      obtain ⟨hiff, hnode⟩ := hnodes t ht
      have halloc := hiff.mp halloc
      exact ⟨t, ht, hspace, halloc, by rw [hnode halloc]⟩
  · intro t ht u hu hne hspace halloc halloc'
    obtain ⟨hiff, hnode⟩ := hnodes t ht
    obtain ⟨hiff', hnode'⟩ := hnodes u hu
    have halloc := hiff.mp halloc
    have halloc' := hiff'.mp halloc'
    rw [hnode halloc, hnode' halloc']
    exact h.disjoint t ht u hu hne hspace halloc halloc'

theorem mem_held_of_allocated (s : HostBridgeState) (h : Owned bridge s) (t : PciResourceType)
    (ht : t ∈ resourceTypes) (halloc : s.Allocated t) :
    nodeRegion bridge t (s.nodes t) ∈ (s.gcd t.space).held :=
  (h.held t.space _).mpr ⟨t, ht, rfl, halloc, rfl⟩

theorem owned_grant (free : GcdSpace → Span → Bool) (s : HostBridgeState) (t : PciResourceType)
    (x : U64) (gcd : Gcd) (h : Owned bridge s) (ht : t ∈ resourceTypes) (hnew : ¬ s.Allocated t)
    (hgranted : gcdAllocate free t.space (s.nodes t).length x s.gcd = some gcd) :
    Owned bridge (s.grant bridge t x gcd) := by
  have hself := nodes_grant_self bridge s t x gcd
  have hother (u : PciResourceType) (hu : u ≠ t) := nodes_grant_of_ne bridge s t u x gcd hu
  have halloc : (s.grant bridge t x gcd).Allocated t := by rw [HostBridgeState.Allocated, hself]
  have hregion : nodeRegion bridge t ((s.grant bridge t x gcd).nodes t) =
      gcdRegion x (s.nodes t).length := by
    rw [hself, nodeRegion, gcdBase_hostBase]
  have hne (u : PciResourceType) (hu : s.Allocated u) : u ≠ t := by
    rintro rfl
    exact hnew hu
  have hkept (u : PciResourceType) (hu : u ≠ t) :
      (s.grant bridge t x gcd).Allocated u ↔ s.Allocated u := by
    rw [HostBridgeState.Allocated, hother u hu, HostBridgeState.Allocated]
  have hfresh (u : PciResourceType) (hu : u ∈ resourceTypes) (hspace : u.space = t.space)
      (hualloc : s.Allocated u) :
      Span.Disjoint (gcdRegion x (s.nodes t).length) (nodeRegion bridge u (s.nodes u)) := by
    have hmem := mem_held_of_allocated bridge s h u hu hualloc
    rw [hspace] at hmem
    exact (grantable_of_gcdAllocate free t.space _ x s.gcd gcd hgranted).2.2 _ hmem
  constructor
  · intro space span
    have hheld := held_of_gcdAllocate free t.space _ x s.gcd gcd hgranted space span
    rw [h.held space span] at hheld
    refine hheld.trans ⟨?_, ?_⟩
    · rintro (⟨rfl, rfl⟩ | ⟨u, hu, hspace, hualloc, rfl⟩)
      · exact ⟨t, ht, rfl, halloc, hregion.symm⟩
      · exact ⟨u, hu, hspace, (hkept u (hne u hualloc)).mpr hualloc,
          by rw [hother u (hne u hualloc)]⟩
    · rintro ⟨u, hu, hspace, hualloc, rfl⟩
      by_cases hut : u = t
      · rw [hut] at hspace ⊢
        exact Or.inl ⟨hspace.symm, hregion⟩
      · rw [hother u hut]
        exact Or.inr ⟨u, hu, hspace, (hkept u hut).mp hualloc, rfl⟩
  · intro u hu v hv huv hspace hualloc hvalloc
    by_cases hut : u = t
    · have hvt : v ≠ t := fun hvt => huv (hut.trans hvt.symm)
      rw [hut] at hspace
      rw [hut, hregion, hother v hvt]
      exact hfresh v hv hspace.symm ((hkept v hvt).mp hvalloc)
    · have hualloc := (hkept u hut).mp hualloc
      by_cases hvt : v = t
      · rw [hvt] at hspace
        rw [hvt, hregion, hother u hut]
        exact Span.disjoint_symm (hfresh u hu hspace hualloc)
      · rw [hother u hut, hother v hvt]
        exact h.disjoint u hu v hv huv hspace hualloc ((hkept v hvt).mp hvalloc)

theorem nodeRegion_ne (s : HostBridgeState) (h : Owned bridge s) (t u : PciResourceType)
    (ht : t ∈ resourceTypes) (hu : u ∈ resourceTypes) (hut : u ≠ t) (hspace : u.space = t.space)
    (hualloc : s.Allocated u) (halloc : s.Allocated t) :
    nodeRegion bridge u (s.nodes u) ≠ nodeRegion bridge t (s.nodes t) := by
  have hmem := mem_held_of_allocated bridge s h t ht halloc
  intro heq
  have hdisjoint := h.disjoint u hu t ht hut hspace hualloc halloc
  rw [heq] at hdisjoint
  exact HeldSpans.not_disjoint_self _ ((s.gcd t.space).bounded _ hmem).1 hdisjoint

section Released

variable (s : HostBridgeState) (t u : PciResourceType) (gcd : Gcd)

/-- The state once the region of a node is freed. -/
def HostBridgeState.released : HostBridgeState :=
  { s with gcd := gcd }.setNode t (s.nodes t).reset

theorem nodes_released_of_ne (hut : u ≠ t) : (s.released t gcd).nodes u = s.nodes u :=
  Function.update_of_ne hut _ _

theorem allocated_released : (s.released t gcd).Allocated u ↔ s.Allocated u ∧ u ≠ t := by
  by_cases hut : u = t
  · rw [hut, HostBridgeState.Allocated, HostBridgeState.released, HostBridgeState.setNode]
    dsimp only
    rw [Function.update_self]
    exact iff_of_false (fun hstatus => by contradiction) (fun hboth => hboth.2 rfl)
  · rw [HostBridgeState.Allocated, nodes_released_of_ne s t u gcd hut]
    exact (and_iff_left hut).symm

theorem blank_released (h : BlankNodes s.nodes) : BlankNodes (s.released t gcd).nodes := by
  intro u hu
  by_cases hut : u = t
  · rw [hut, HostBridgeState.released, HostBridgeState.setNode]
    dsimp only
    rw [Function.update_self]
    rfl
  · rw [nodes_released_of_ne s t u gcd hut] at hu ⊢
    exact h u hu

end Released

theorem owned_free (s : HostBridgeState) (t : PciResourceType) (h : Owned bridge s)
    (ht : t ∈ resourceTypes) (halloc : s.Allocated t) :
    ∃ gcd, gcdFree t.space (gcdBase bridge t (s.nodes t).base) (s.nodes t).length s.gcd = .ok gcd ∧
      Owned bridge (s.released t gcd) := by
  have hmem := mem_held_of_allocated bridge s h t ht halloc
  obtain ⟨partition, hrelease, hheld⟩ := (s.gcd t.space).release_of_mem _ hmem
  refine ⟨Function.update s.gcd t.space partition, ?_, ?_⟩
  · rw [gcdFree, ← nodeRegion, hrelease]
  have hallocated (u : PciResourceType) :=
    allocated_released s t u (Function.update s.gcd t.space partition)
  have hother (u : PciResourceType) (hut : u ≠ t) :=
    nodes_released_of_ne s t u (Function.update s.gcd t.space partition) hut
  constructor
  · intro space span
    have hgcd : span ∈ ((Function.update s.gcd t.space partition) space).held ↔
        span ∈ (s.gcd space).held ∧
          ¬ (space = t.space ∧ span = nodeRegion bridge t (s.nodes t)) := by
      by_cases hspace : space = t.space
      · rw [hspace, Function.update_self, hheld]
        simp only [true_and, ne_eq]
      · rw [Function.update_of_ne hspace]
        simp only [hspace, false_and, not_false_eq_true, and_true]
    refine hgcd.trans ?_
    rw [h.held space span]
    constructor
    · rintro ⟨⟨u, hu, hspace, hualloc, rfl⟩, hnot⟩
      have hut : u ≠ t := by
        rintro rfl
        exact hnot ⟨hspace.symm, rfl⟩
      exact ⟨u, hu, hspace, (hallocated u).mpr ⟨hualloc, hut⟩, by rw [hother u hut]⟩
    · rintro ⟨u, hu, hspace, hualloc, rfl⟩
      obtain ⟨hualloc, hut⟩ := (hallocated u).mp hualloc
      rw [hother u hut]
      refine ⟨⟨u, hu, hspace, hualloc, rfl⟩, ?_⟩
      rintro ⟨hsame, heq⟩
      exact nodeRegion_ne bridge s h t u ht hu hut (hspace.trans hsame) hualloc halloc heq
  · intro u hu v hv huv hspace hualloc hvalloc
    obtain ⟨hualloc, hut⟩ := (hallocated u).mp hualloc
    obtain ⟨hvalloc, hvt⟩ := (hallocated v).mp hvalloc
    rw [hother u hut, hother v hvt]
    exact h.disjoint u hu v hv huv hspace hualloc hvalloc

end Invariant

/-! Calls and runs. -/

/-- The calls of the protocol, each with what other owners leave free and what an
uninitialised status holds while it runs. -/
inductive HostBridgeCall
  | notifyPhase (free : PciResourceType → GcdSpace → Span → Bool) (leftover : EfiStatus)
      (this : Bool) (phase : EnumerationPhase)
  | submitResources (this : Bool) (rootBridgeHandle : EfiHandle)
      (configuration : Option AcpiConfiguration)
  | setBusNumbers (this : Bool) (rootBridgeHandle : EfiHandle)
      (configuration : Option AcpiConfiguration)
  | getProposedResources (pool this : Bool) (rootBridgeHandle : EfiHandle) (output : Bool)

/-- The state after a call; `none` when the call never returns. -/
def hostBridgeCall (bridge : PciHostBridge) (s : HostBridgeState) :
    HostBridgeCall → Option HostBridgeState
  | .notifyPhase free leftover this phase =>
    (hostBridgeNotifyPhase bridge free leftover this phase s).map Prod.snd
  | .submitResources this handle configuration =>
    some (hostBridgeSubmitResources bridge this handle configuration s).2
  | .setBusNumbers this handle configuration =>
    some (hostBridgeSetBusNumbers bridge this handle configuration s).2
  | .getProposedResources _ _ _ _ => some s

/-- The states that calls which meet a condition lead to. -/
inductive Reaches (bridge : PciHostBridge) (meets : HostBridgeState → HostBridgeCall → Prop) :
    HostBridgeState → Prop
  | init : Reaches bridge meets hostBridgeInit
  | call (s s' : HostBridgeState) (c : HostBridgeCall) (h : Reaches bridge meets s)
      (hmeets : meets s c) (hcall : hostBridgeCall bridge s c = some s') :
      Reaches bridge meets s'

def NoneAllocated (s : HostBridgeState) : Prop := ∀ t ∈ resourceTypes, ¬ s.Allocated t

/-- Every address an allocation phase asks for and can get is for a node that has no
region, and neither it nor its host address is `MAX_UINT64`. -/
def AllocationKept (bridge : PciHostBridge) (free : PciResourceType → GcdSpace → Span → Bool)
    (s : HostBridgeState) : Prop :=
  ∀ p ∈ phaseSelections s, ∀ x, AsksFor bridge p.2 (s.nodes p.2) x →
    Grantable (free p.1) p.2.space (s.nodes p.2).length x s.gcd →
    ¬ s.Allocated p.2 ∧ x ≠ MAX_UINT64 ∧ hostBase bridge p.2 x ≠ MAX_UINT64

/-- The call overwrites no allocated node and loses no region. -/
def CallKept (bridge : PciHostBridge) (s : HostBridgeState) : HostBridgeCall → Prop
  | .notifyPhase free _ true phase =>
    (phase = .beginEnumeration → s.canRestart = true → NoneAllocated s) ∧
    (phase = .allocateResources → s.resourceSubmitted = true → AllocationKept bridge free s)
  | .submitResources this handle (some configuration) =>
    (hostBridgeSubmitResources bridge this handle (some configuration) s).1 = .ok () →
      ∀ d ∈ configuration.descriptors, ¬ s.Allocated d.nodeType
  | _ => True

section Runs

variable (bridge : PciHostBridge)

structure Sound (s : HostBridgeState) : Prop where
  owned : Owned bridge s
  blank : BlankNodes s.nodes

theorem sound_init : Sound bridge hostBridgeInit := by
  refine ⟨⟨fun space span => ?_, fun t _ u _ _ _ halloc => ?_⟩, fun _ _ => rfl⟩
  · refine ⟨fun hspan => absurd hspan List.not_mem_nil, ?_⟩
    rintro ⟨t, -, -, halloc, -⟩
    contradiction
  · contradiction

/-- Attempts keep the invariant when none of them is for an allocated node that could get
another region. -/
theorem owned_attempts (free : PciResourceType → GcdSpace → Span → Bool)
    (l : List (PciResourceType × PciResourceType)) (r r' : EfiStatus × HostBridgeState)
    (hnodup : (l.map Prod.snd).Nodup) (htypes : ∀ p ∈ l, p.2 ∈ resourceTypes)
    (hkept : ∀ p ∈ l, ∀ x, AsksFor bridge p.2 (r.2.nodes p.2) x →
      Grantable (free p.1) p.2.space (r.2.nodes p.2).length x r.2.gcd →
      ¬ r.2.Allocated p.2 ∧ x ≠ MAX_UINT64 ∧ hostBase bridge p.2 x ≠ MAX_UINT64)
    (howned : Owned bridge r.2) (h : attempts bridge free l r = some r') :
    Owned bridge r'.2 := by
  induction l generalizing r with
  | nil =>
      rw [attempts_nil] at h
      rwa [← Option.some.inj h]
  | cons p rest ih =>
      rw [attempts_cons, Option.bind_eq_some_iff] at h
      obtain ⟨m, hattempt, hrest⟩ := h
      rw [List.map_cons, List.nodup_cons] at hnodup
      have hframe := attemptFrame bridge p.2 (free p.1) r m hattempt
      have hfirst := hkept p List.mem_cons_self
      have howned' : Owned bridge m.2 := by
        rcases attemptNode_kept bridge (free p.1) p.2 r m (fun x hx hg => (hfirst x hx hg).2)
          hattempt with hsame | ⟨x, g, hasks, hgranted, hstate⟩
        · rwa [hsame]
        · have hnew := (hfirst x hasks
            (grantable_of_gcdAllocate (free p.1) p.2.space _ x r.2.gcd g hgranted)).1
          rw [hstate]
          exact owned_grant bridge (free p.1) r.2 p.2 x g howned (htypes p List.mem_cons_self)
            hnew hgranted
      refine ih m hnodup.2 (fun q hq => htypes q (List.mem_cons_of_mem p hq)) ?_ howned' hrest
      intro q hq x hasks hgrantable
      have hne : q.2 ≠ p.2 := fun heq =>
        hnodup.1 (heq ▸ List.mem_map_of_mem hq)
      rw [HostBridgeState.Allocated, hframe.others q.2 hne] at *
      exact hkept q (List.mem_cons_of_mem p hq) x hasks
        (grantable_anti (free q.1) q.2.space _ x r.2.gcd m.2.gcd hframe.held hgrantable)

theorem blank_attempts (free : PciResourceType → GcdSpace → Span → Bool)
    (l : List (PciResourceType × PciResourceType)) (r r' : EfiStatus × HostBridgeState)
    (hblank : BlankNodes r.2.nodes) (h : attempts bridge free l r = some r') :
    BlankNodes r'.2.nodes := by
  induction l generalizing r with
  | nil =>
      rw [attempts_nil] at h
      rwa [← Option.some.inj h]
  | cons p rest ih =>
      rw [attempts_cons, Option.bind_eq_some_iff] at h
      obtain ⟨m, hattempt, hrest⟩ := h
      exact ih m (sameKeys_attemptNode bridge p.2 (free p.1) r m hblank hattempt).2 hrest

theorem sound_clearLengths (s : HostBridgeState) (h : Sound bridge s) :
    Sound bridge (clearLengths s) := by
  constructor
  · exact owned_of_same_regions bridge s _ h.owned rfl fun t _ =>
      ⟨allocated_clearLengths s t, nodes_clearLengths_of_allocated s t⟩
  · intro t ht
    have hstatus : ((clearLengths s).nodes t).status = (s.nodes t).status := by
      rw [nodes_clearLengths]
      split
      · exact status_clearLength _
      · rfl
    have hlength := h.blank t (hstatus.symm.trans ht)
    rw [nodes_clearLengths]
    split
    · rw [PciResNode.clearLength]
      split
      · rfl
      · exact hlength
    · exact hlength

theorem sound_allocateResourcesPhase (free : PciResourceType → GcdSpace → Span → Bool)
    (s s' : HostBridgeState) (status : EfiStatus) (h : Sound bridge s)
    (hkept : s.resourceSubmitted = true → AllocationKept bridge free s)
    (hphase : allocateResourcesPhase bridge free s = some (status, s')) : Sound bridge s' := by
  cases hsubmitted : s.resourceSubmitted with
  | false =>
      rw [allocateResourcesPhase, hsubmitted] at hphase
      obtain ⟨-, rfl⟩ := Prod.mk.inj (Option.some.inj hphase)
      exact h
  | true =>
      rw [allocateResourcesPhase_eq bridge free s h.blank hsubmitted, Option.map_eq_some_iff]
        at hphase
      obtain ⟨r, hattempts, hr⟩ := hphase
      obtain ⟨-, rfl⟩ := Prod.mk.inj hr
      apply sound_clearLengths
      exact ⟨owned_attempts bridge free _ (.ok (), s) r (nodup_phaseSelections s)
          (mem_phaseSelections s) (hkept hsubmitted) h.owned hattempts,
        blank_attempts bridge free _ (.ok (), s) r h.blank hattempts⟩

theorem sound_beginEnumerationPhase (s : HostBridgeState) (h : Sound bridge s)
    (hkept : s.canRestart = true → NoneAllocated s) :
    Sound bridge (beginEnumerationPhase s).2 := by
  cases hrestart : s.canRestart with
  | false =>
      rw [beginEnumerationPhase, hrestart]
      exact h
  | true =>
      rw [beginEnumerationPhase, hrestart]
      refine ⟨owned_of_same_regions bridge s _ h.owned rfl fun t ht => ?_, fun _ _ => rfl⟩
      have hnot := hkept hrestart t ht
      refine ⟨⟨fun hreset => ?_, fun halloc => absurd halloc hnot⟩,
        fun halloc => absurd halloc hnot⟩
      contradiction

theorem sound_setNode (s : HostBridgeState) (t : PciResourceType) (node : PciResNode)
    (h : Sound bridge s) (hregion : t ∈ resourceTypes → ¬ s.Allocated t ∧ node.status ≠ .allocated)
    (hblank : node.status ≠ .none) : Sound bridge (s.setNode t node) := by
  constructor
  · refine owned_of_same_regions bridge s _ h.owned rfl fun u hu => ?_
    rw [HostBridgeState.Allocated, HostBridgeState.setNode]
    dsimp only
    by_cases hut : u = t
    · rw [hut] at hu ⊢
      obtain ⟨hnot, hnode⟩ := hregion hu
      rw [Function.update_self]
      exact ⟨⟨fun halloc => absurd halloc hnode, fun halloc => absurd halloc hnot⟩,
        fun halloc => absurd halloc hnot⟩
    · rw [Function.update_of_ne hut]
      exact ⟨Iff.rfl, fun _ => rfl⟩
  · intro u hu
    rw [HostBridgeState.setNode] at hu ⊢
    dsimp only at hu ⊢
    by_cases hut : u = t
    · rw [hut, Function.update_self] at hu
      exact absurd hu hblank
    · rw [Function.update_of_ne hut] at hu ⊢
      exact h.blank u hu

theorem sound_flags (s : HostBridgeState) (resourceSubmitted canRestart : Bool)
    (h : Sound bridge s) :
    Sound bridge { s with resourceSubmitted := resourceSubmitted, canRestart := canRestart } :=
  ⟨owned_of_same_regions bridge s _ h.owned rfl fun _ _ => ⟨Iff.rfl, fun _ => rfl⟩, h.blank⟩

theorem allocated_recordDescriptor (s : HostBridgeState) (d : AcpiDescriptor)
    (t : PciResourceType) (h : (recordDescriptor s d).Allocated t) : s.Allocated t := by
  rw [HostBridgeState.Allocated, recordDescriptor, HostBridgeState.setNode] at h
  dsimp only at h
  by_cases ht : t = d.nodeType
  · rw [ht, Function.update_self] at h
    contradiction
  · rwa [Function.update_of_ne ht] at h

theorem sound_recordDescriptors (l : List AcpiDescriptor) (s : HostBridgeState)
    (h : Sound bridge s) (hkept : ∀ d ∈ l, ¬ s.Allocated d.nodeType) :
    Sound bridge (l.foldl recordDescriptor s) := by
  induction l generalizing s with
  | nil => exact h
  | cons d rest ih =>
      apply ih
      · apply sound_setNode bridge s d.nodeType _ h
        · exact fun _ => ⟨hkept d List.mem_cons_self, fun hstatus => by contradiction⟩
        · exact fun hstatus => by contradiction
      · intro e he halloc
        exact hkept e (List.mem_cons_of_mem d he)
          (allocated_recordDescriptor s d e.nodeType halloc)

theorem sound_submitResources (this : Bool) (handle : EfiHandle)
    (configuration : Option AcpiConfiguration) (s : HostBridgeState) (h : Sound bridge s)
    (hkept : CallKept bridge s (.submitResources this handle configuration)) :
    Sound bridge (hostBridgeSubmitResources bridge this handle configuration s).2 := by
  cases this with
  | false => exact h
  | true =>
      cases configuration with
      | none => exact h
      | some configuration =>
          rw [CallKept] at hkept
          rw [hostBridgeSubmitResources] at hkept ⊢
          split
          · exact h
          · next hcontroller =>
              rw [if_neg hcontroller] at hkept
              split
              · exact h
              · next hcheck =>
                  rw [hcheck] at hkept
                  dsimp only at hkept
                  split
                  · exact h
                  · next hend =>
                      rw [if_neg hend] at hkept
                      exact sound_flags bridge _ true _
                        (sound_recordDescriptors bridge _ s h (hkept rfl))

theorem sound_setBusNumbers (this : Bool) (handle : EfiHandle)
    (configuration : Option AcpiConfiguration) (s : HostBridgeState) (h : Sound bridge s) :
    Sound bridge (hostBridgeSetBusNumbers bridge this handle configuration s).2 := by
  have hbus (d : AcpiDescriptor) : Sound bridge (s.setNode .bus { s.nodes .bus with
      base := d.addrRangeMin, length := d.addrLen, status := .allocated }) :=
    sound_setNode bridge s .bus _ h (fun hbus => absurd hbus (by decide))
      (fun hstatus => by contradiction)
  rw [hostBridgeSetBusNumbers.eq_def]
  repeat' split
  all_goals first | exact h | exact hbus _

/-! `FreeResources`. -/

/-- Freeing the nodes of a list, in an owned state, frees all of them; the status is what it
was when there was none to free. -/
theorem freeResourcesLoop_spec (l : List PciResourceType) (status : EfiStatus)
    (s : HostBridgeState) (hl : ∀ t ∈ l, t ∈ resourceTypes) (h : Sound bridge s) :
    Sound bridge (freeResourcesLoop bridge l status s).2 ∧
      (∀ t, (freeResourcesLoop bridge l status s).2.Allocated t → s.Allocated t ∧ t ∉ l) ∧
      (freeResourcesLoop bridge l status s).2.canRestart = true ∧
      (freeResourcesLoop bridge l status s).1 =
        if ∃ t ∈ l, s.Allocated t then .ok () else status := by
  induction l generalizing s status with
  | nil =>
      refine ⟨sound_flags bridge s false true h,
        fun t halloc => ⟨halloc, List.not_mem_nil⟩, rfl, ?_⟩
      rw [if_neg]
      · rfl
      · rintro ⟨t, ht, -⟩
        exact absurd ht List.not_mem_nil
  | cons t rest ih =>
      have hrest (u : PciResourceType) (hu : u ∈ rest) := hl u (List.mem_cons_of_mem t hu)
      by_cases halloc : s.Allocated t
      · obtain ⟨gcd, hfree, howned⟩ :=
          owned_free bridge s t h.owned (hl t List.mem_cons_self) halloc
        have hstep : freeResourcesLoop bridge (t :: rest) status s =
            freeResourcesLoop bridge rest (.ok ()) (s.released t gcd) := by
          have hstatus : (s.nodes t).status = .allocated := halloc
          simp only [freeResourcesLoop, hstatus, if_true, hfree]
          rfl
        obtain ⟨hsound, hfreed, hrestart, hstatus⟩ := ih (.ok ()) _ hrest
          ⟨howned, blank_released s t gcd h.blank⟩
        rw [hstep]
        refine ⟨hsound, fun u hu => ?_, hrestart, ?_⟩
        · obtain ⟨hu, hnot⟩ := hfreed u hu
          obtain ⟨hu, hut⟩ := (allocated_released s t u gcd).mp hu
          exact ⟨hu, List.not_mem_cons_of_ne_of_not_mem hut hnot⟩
        · rw [hstatus, ite_self, if_pos ⟨t, List.mem_cons_self, halloc⟩]
      · have hstep : freeResourcesLoop bridge (t :: rest) status s =
            freeResourcesLoop bridge rest status s := by
          rw [freeResourcesLoop]
          exact if_neg halloc
        obtain ⟨hsound, hfreed, hrestart, hstatus⟩ := ih status s hrest h
        rw [hstep]
        refine ⟨hsound, fun u hu => ?_, hrestart, ?_⟩
        · obtain ⟨hu, hnot⟩ := hfreed u hu
          have hut : u ≠ t := by
            rintro rfl
            exact halloc hu
          exact ⟨hu, List.not_mem_cons_of_ne_of_not_mem hut hnot⟩
        · rw [hstatus]
          simp only [List.mem_cons, exists_eq_or_imp, halloc, false_or]

theorem held_of_noneAllocated (s : HostBridgeState) (h : Owned bridge s)
    (hnone : NoneAllocated s) (space : GcdSpace) : (s.gcd space).held = [] := by
  apply List.eq_nil_iff_forall_not_mem.mpr
  intro span hspan
  obtain ⟨t, ht, -, halloc, -⟩ := (h.held space span).mp hspan
  exact hnone t ht halloc

/-- A `FreeResources` phase gives back every region and allows a restart, with this status. -/
def FreesAll (s : HostBridgeState) (leftover status : EfiStatus) : Prop :=
  ∀ free, ∃ s',
    hostBridgeNotifyPhase bridge free leftover true .freeResources s = some (status, s') ∧
    (∀ space, (s'.gcd space).held = []) ∧ s'.canRestart = true

theorem freesAll_of_sound (s : HostBridgeState) (leftover : EfiStatus) (h : Sound bridge s) :
    FreesAll bridge s leftover
      (if ∃ t ∈ resourceTypes, s.Allocated t then .ok () else leftover) := by
  intro free
  obtain ⟨hsound, hfreed, hrestart, hstatus⟩ :=
    freeResourcesLoop_spec bridge resourceTypes leftover s (fun t ht => ht) h
  refine ⟨(freeResourcesLoop bridge resourceTypes leftover s).2, ?_, ?_, hrestart⟩
  · rw [← hstatus]
    rfl
  · apply held_of_noneAllocated bridge _ hsound.owned
    intro t ht halloc
    exact (hfreed t halloc).2 ht

/-! Runs. -/

theorem sound_call (s s' : HostBridgeState) (c : HostBridgeCall) (h : Sound bridge s)
    (hkept : CallKept bridge s c) (hcall : hostBridgeCall bridge s c = some s') :
    Sound bridge s' := by
  cases c with
  | notifyPhase free leftover this phase =>
      rw [hostBridgeCall, Option.map_eq_some_iff] at hcall
      obtain ⟨⟨status, s''⟩, hphase, rfl⟩ := hcall
      cases this with
      | false =>
          obtain ⟨-, rfl⟩ := Prod.mk.inj (Option.some.inj hphase)
          exact h
      | true =>
          obtain ⟨hbegin, hallocate⟩ := hkept
          cases phase with
          | beginEnumeration =>
              have hstate := congrArg Prod.snd (Option.some.inj hphase)
              rw [← hstate]
              exact sound_beginEnumerationPhase bridge s h (hbegin rfl)
          | allocateResources =>
              exact sound_allocateResourcesPhase bridge free s s'' status h (hallocate rfl) hphase
          | freeResources =>
              have hstate := congrArg Prod.snd (Option.some.inj hphase)
              rw [← hstate]
              exact (freeResourcesLoop_spec bridge resourceTypes leftover s (fun t ht => ht) h).1
          | beginBusAllocation =>
              obtain ⟨-, rfl⟩ := Prod.mk.inj (Option.some.inj hphase)
              exact sound_flags bridge s s.resourceSubmitted false h
          | endBusAllocation | beginResourceAllocation | setResources | endResourceAllocation
          | endEnumeration | maximum =>
              obtain ⟨-, rfl⟩ := Prod.mk.inj (Option.some.inj hphase)
              exact h
  | submitResources this handle configuration =>
      rw [← Option.some.inj hcall]
      exact sound_submitResources bridge this handle configuration s h hkept
  | setBusNumbers this handle configuration =>
      rw [← Option.some.inj hcall]
      exact sound_setBusNumbers bridge this handle configuration s h
  | getProposedResources =>
      rw [← Option.some.inj hcall]
      exact h

theorem sound_of_reaches (s : HostBridgeState) (h : Reaches bridge (CallKept bridge) s) :
    Sound bridge s := by
  induction h with
  | init => exact sound_init bridge
  | call s s' c _ hkept hcall ih => exact sound_call bridge s s' c ih hkept hcall

end Runs

/-- Every reachable state owns exactly what its nodes say, and a `FreeResources` phase from
it gives everything back with success. -/
def ResourcesOwned (bridge : PciHostBridge) : Prop :=
  ∀ s, Reaches bridge (fun _ _ => True) s →
    Owned bridge s ∧ ∀ leftover, FreesAll bridge s leftover (.ok ())

/-- In a run whose calls overwrite no allocated node and lose no region, ownership is exact in
every state reached. A `FreeResources` phase gives everything back, and its status is success
if and only if there is something to give back. -/
theorem keptRun_owned (bridge : PciHostBridge) (s : HostBridgeState)
    (h : Reaches bridge (CallKept bridge) s) :
    Owned bridge s ∧ (∀ leftover, ∃ status, FreesAll bridge s leftover status) ∧
      ((∀ leftover, FreesAll bridge s leftover (.ok ())) ↔
        ∃ t ∈ resourceTypes, s.Allocated t) := by
  have hsound := sound_of_reaches bridge s h
  have hfrees (leftover : EfiStatus) := freesAll_of_sound bridge s leftover hsound
  refine ⟨hsound.owned, fun leftover => ⟨_, hfrees leftover⟩, fun hall => ?_,
    fun hsome leftover => ?_⟩
  · by_contra hnone
    obtain ⟨s', hphase, -⟩ := hall (.error .notFound) (fun _ _ _ => false)
    obtain ⟨s'', hphase', -⟩ := hfrees (.error .notFound) (fun _ _ _ => false)
    rw [if_neg hnone, hphase] at hphase'
    have hstatus := congrArg Prod.fst (Option.some.inj hphase')
    contradiction
  · have hfreed := hfrees leftover
    rwa [if_pos hsome] at hfreed

/-! A root bridge with one request of 4 KB below 4 GB. -/

def sampleHostBridge : PciHostBridge where
  toPciRootBridge := uniformBridge ⟨0x10000000, 0x10000000, 0x10000000, 0x1000000, none⟩
  controller := 1
  allocationAttributes := 0

def sampleRequest : AcpiConfiguration := ⟨[⟨0, 0, 32, 0, 0xfff, 0, 0x1000⟩], 0x79⟩

/-- Other owners leave the first 4 KB of the aperture only. -/
def sampleFree : PciResourceType → GcdSpace → Span → Bool :=
  fun _ _ span => span = ⟨0x10000000, 0x1000⟩

def submitSample : HostBridgeCall := .submitResources true 1 (some sampleRequest)

def allocateSample : HostBridgeCall := .notifyPhase sampleFree (.ok ()) true .allocateResources

def submittedSample : HostBridgeState :=
  (hostBridgeSubmitResources sampleHostBridge true 1 (some sampleRequest) hostBridgeInit).2

theorem allocateSample_returns :
    (hostBridgeCall sampleHostBridge submittedSample allocateSample).isSome = true := by
  decide

def allocatedSample : HostBridgeState :=
  (hostBridgeCall sampleHostBridge submittedSample allocateSample).get allocateSample_returns

theorem reaches_allocatedSample (meets : HostBridgeState → HostBridgeCall → Prop)
    (hsubmit : meets hostBridgeInit submitSample)
    (hallocate : meets submittedSample allocateSample) :
    Reaches sampleHostBridge meets allocatedSample :=
  .call submittedSample allocatedSample allocateSample
    (.call hostBridgeInit submittedSample submitSample .init hsubmit rfl) hallocate
    (Option.some_get allocateSample_returns).symm

theorem keptRun_owned_sample :
    Owned sampleHostBridge allocatedSample ∧
      (∀ leftover, ∃ status, FreesAll sampleHostBridge allocatedSample leftover status) ∧
      ((∀ leftover, FreesAll sampleHostBridge allocatedSample leftover (.ok ())) ↔
        ∃ t ∈ resourceTypes, allocatedSample.Allocated t) := by
  apply keptRun_owned sampleHostBridge allocatedSample
  apply reaches_allocatedSample
  · intro _ d _ halloc
    contradiction
  · refine ⟨fun hphase => by contradiction, fun _ _ p hp x _ hgrantable => ?_⟩
    have hselected : phaseSelections submittedSample = [(.mem32, .mem32)] := by decide
    rw [hselected, List.mem_singleton] at hp
    subst hp
    have hregion : gcdRegion x 0x1000 = ⟨0x10000000, 0x1000⟩ := of_decide_eq_true hgrantable.1
    have hx : x = 0x10000000 := BitVec.eq_of_toNat_eq (congrArg Span.base hregion)
    subst hx
    decide

/-- Submitting the request again loses the region allocated for it. -/
theorem resubmit_leaks_region : ¬ ResourcesOwned sampleHostBridge := by
  intro h
  have hreach := Reaches.call allocatedSample _ submitSample
    (reaches_allocatedSample (fun _ _ => True) trivial trivial) trivial rfl
  have hheld := ((h _ hreach).1.held .memory ⟨0x10000000, 0x1000⟩).mp (by decide)
  obtain ⟨t, ht, -, halloc, -⟩ := hheld
  have hnone : NoneAllocated (hostBridgeSubmitResources sampleHostBridge true 1
      (some sampleRequest) allocatedSample).2 := by
    rw [NoneAllocated]
    decide
  exact hnone t ht halloc

end FdtBusPkg
