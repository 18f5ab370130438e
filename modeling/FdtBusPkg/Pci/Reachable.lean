import FdtBusPkg.Pci.DeviceMemory
import FdtBusPkg.Pci.Ownership
import FdtBusPkg.Pci.SmallApertures

/-!
From the requests submitted to the accesses made. In a run whose calls overwrite no allocated
node, every node lies in an aperture with the translation of its type; so an access to the
addresses proposed for it is accepted and reaches the region that the GCD holds for it.
-/
namespace FdtBusPkg

/-- The space in which the addresses of a node are accessed. -/
def PciResourceType.accessSpace : PciResourceType → PciSpace
  | .io => .io
  | _ => .mem

/-- The device addresses of a node, as they are proposed. -/
def deviceSpan (bridge : PciHostBridge) (t : PciResourceType) (node : PciResNode) : Span :=
  gcdRegion (toDeviceAddress node.base (getTranslationByResourceType bridge.toPciRootBridge t))
    node.length

/-- The first address of an aperture in the GCD. -/
def gcdFirst (t : PciResourceType) (range : DtRange) : U64 :=
  if t = .io then range.rb else range.rb - range.rt

def SmallBridge (bridge : PciHostBridge) : Prop := ∀ a, (bridge.aperture a).Small

/-- The aperture that 64-bit memory falls back to has the same translation, when present. -/
def FallbackAgrees (bridge : PciHostBridge) : PciResourceType → Prop
  | .mem64 => bridge.memRange.valid = true → bridge.memRange.rt = bridge.memAbove4GRange.rt
  | .pMem64 => bridge.pMemRange.valid = true → bridge.pMemRange.rt = bridge.pMemAbove4GRange.rt
  | _ => True

/-- A request far from the end of the address space. -/
structure NodeSmall (bridge : PciHostBridge) (t : PciResourceType) (node : PciResNode) : Prop where
  length : node.length.toNat ≤ smallLimit
  alignment : node.alignment.toNat < smallLimit
  fallback : FallbackAgrees bridge t

/-- A small aperture of the space of a type, with its translation. -/
structure ServesType (bridge : PciHostBridge) (t : PciResourceType) (range : DtRange) :
    Prop where
  mem : range ∈ bridge.windows t.accessSpace
  valid : range.valid = true
  translation : range.rt = getTranslationByResourceType bridge.toPciRootBridge t
  device : range.rb.toNat + range.length.toNat ≤ smallLimit
  host : (range.rb - range.rt).toNat + range.length.toNat ≤ smallLimit

/-- The region of a node lies in an aperture of its type, on both sides. -/
def NodePlaced (bridge : PciHostBridge) (t : PciResourceType) (node : PciResNode) : Prop :=
  ∃ range, ServesType bridge t range ∧
    Span.Within (nodeRegion bridge t node) ⟨(gcdFirst t range).toNat, range.length.toNat⟩

section Place

theorem accessSpace_of_ne {t : PciResourceType} (ht : t ≠ .io) : t.accessSpace = .mem := by
  cases t with
  | io => exact absurd rfl ht
  | mem32 | pMem32 | mem64 | pMem64 | bus => rfl

theorem aperture_mem_windows (bridge : PciRootBridge) (a : PciAperture) (ha : a ≠ .io) :
    bridge.aperture a ∈ bridge.windows .mem := by
  cases a with
  | io => exact absurd rfl ha
  | mem | pMem | memAbove4G | pMemAbove4G =>
      simp [PciRootBridge.windows, PciRootBridge.aperture]

variable {bridge : PciHostBridge} {t : PciResourceType} {node : PciResNode}

theorem servesType_memorySearch (hsmall : SmallBridge bridge) (a : PciAperture)
    (ha : a ≠ .io) (ht : t ≠ .io)
    (hnode : NodeSmall bridge t node) (hpos : 0 < node.length.toNat)
    (hrt : (bridge.aperture a).valid = true →
      (bridge.aperture a).rt = getTranslationByResourceType bridge.toPciRootBridge t)
    {maxBits x : U64}
    (hmax : maxBits.toNat < 64)
    (h : (memorySearch node maxBits (bridge.aperture a)).Asks node.length x) :
    ∃ range, ServesType bridge t range ∧
      Span.Within (gcdRegion x node.length) ⟨(gcdFirst t range).toNat, range.length.toNat⟩ := by
  have hbits : (memorySearch node maxBits (bridge.aperture a)).bitsOfAlignment.toNat < 64 := by
    rw [memorySearch, toNat_MIN]
    omega
  obtain ⟨hvalid, hlow, hhigh⟩ := @inside_of_asks (bridge.aperture a) _
    (bridge.aperture a).rt _ _ _ hbits rfl rfl hnode.alignment (hsmall a) ⟨hpos, hnode.length⟩ h
  rcases hsmall a with ⟨-, -, hnone⟩ | ⟨-, hdevice, hhost⟩
  · rw [DtRange.valid, hnone] at hvalid
    exact absurd hvalid (by decide)
  · refine ⟨_, ⟨?_, hvalid, hrt hvalid, hdevice, hhost⟩, ?_⟩
    · rw [accessSpace_of_ne ht]
      exact aperture_mem_windows bridge.toPciRootBridge a ha
    · rw [gcdFirst, if_neg ht]
      exact ⟨hlow, hhigh⟩

/-- What is asked for a small request lies in an aperture of its type. -/
theorem servesType_of_asks (hsmall : SmallBridge bridge) (hnode : NodeSmall bridge t node)
    (hpos : 0 < node.length.toNat) {q : ApertureSearch} (hq : q ∈ searches bridge node t)
    {x : U64} (h : q.Asks node.length x) :
    ∃ range, ServesType bridge t range ∧
      Span.Within (gcdRegion x node.length) ⟨(gcdFirst t range).toNat, range.length.toNat⟩ := by
  cases t with
  | io =>
      rw [List.mem_singleton.mp hq] at h
      have hbits : (ioSearch bridge node).bitsOfAlignment.toNat < 64 := by
        rw [ioSearch, toNat_MIN]
        have hfifteen : (15 : U64).toNat = 15 := rfl
        omega
      have hio : bridge.ioRange.Small := hsmall .io
      have hzero (y : U64) : y - 0 = y := BitVec.sub_zero y
      obtain ⟨hvalid, hlow, hhigh⟩ := @inside_of_asks bridge.ioRange _ 0 _ _ _ hbits
        (hzero _).symm (hzero _).symm hnode.alignment
        (hio.imp (fun habsent => ⟨habsent.1, rfl, habsent.2.2⟩)
          fun hpresent => ⟨hpresent.1, hpresent.2.1, (hzero bridge.ioRange.rb).symm ▸ hpresent.2.1⟩)
        ⟨hpos, hnode.length⟩ h
      rw [hzero] at hlow hhigh
      rcases hio with ⟨-, -, hnone⟩ | ⟨-, hdevice, hhost⟩
      · rw [DtRange.valid, hnone] at hvalid
        exact absurd hvalid (by decide)
      · refine ⟨_, ⟨?_, hvalid, rfl, hdevice, hhost⟩, hlow, hhigh⟩
        simp [PciRootBridge.windows, PciResourceType.accessSpace]
  | mem32 =>
      rw [List.mem_singleton.mp hq] at h
      exact servesType_memorySearch hsmall .mem (by decide) (by decide)
        hnode hpos (fun _ => rfl) (by decide) h
  | pMem32 =>
      rw [List.mem_singleton.mp hq] at h
      exact servesType_memorySearch hsmall .pMem (by decide) (by decide)
        hnode hpos (fun _ => rfl) (by decide) h
  | mem64 =>
      rcases List.mem_cons.mp hq with rfl | hq
      · exact servesType_memorySearch hsmall .memAbove4G (by decide) (by decide) hnode hpos
          (fun _ => rfl) (by decide) h
      · rw [List.mem_singleton.mp hq] at h
        exact servesType_memorySearch hsmall .mem (by decide) (by decide)
          hnode hpos hnode.fallback (by decide) h
  | pMem64 =>
      rcases List.mem_cons.mp hq with rfl | hq
      · exact servesType_memorySearch hsmall .pMemAbove4G (by decide) (by decide) hnode hpos
          (fun _ => rfl) (by decide) h
      · rw [List.mem_singleton.mp hq] at h
        exact servesType_memorySearch hsmall .pMem (by decide) (by decide)
          hnode hpos hnode.fallback (by decide) h
  | bus => exact absurd hq List.not_mem_nil

end Place

/-! Runs. -/

/-- Every request is small, and every region lies in an aperture of its type. -/
structure WellPlaced (bridge : PciHostBridge) (s : HostBridgeState) : Prop where
  small : ∀ t ∈ resourceTypes, (s.nodes t).status ≠ .none → NodeSmall bridge t (s.nodes t)
  placed : ∀ t ∈ resourceTypes, s.Allocated t → NodePlaced bridge t (s.nodes t)

structure DescriptorSmall (bridge : PciHostBridge) (d : AcpiDescriptor) : Prop where
  length : d.addrLen.toNat ≤ smallLimit
  alignment : d.addrRangeMax.toNat < smallLimit
  fallback : FallbackAgrees bridge d.nodeType

/-- The call overwrites no allocated node, and submits small requests only. -/
def CallClean (bridge : PciHostBridge) (s : HostBridgeState) : HostBridgeCall → Prop
  | .notifyPhase _ _ true phase =>
    (phase = .beginEnumeration → s.canRestart = true → NoneAllocated s) ∧
    (phase = .allocateResources → s.resourceSubmitted = true →
      ∀ p ∈ phaseSelections s, ¬ s.Allocated p.2)
  | .submitResources this handle (some configuration) =>
    (hostBridgeSubmitResources bridge this handle (some configuration) s).1 = .ok () →
      ∀ d ∈ configuration.descriptors, ¬ s.Allocated d.nodeType ∧ DescriptorSmall bridge d
  | _ => True

section Runs

variable (bridge : PciHostBridge)

theorem status_ne_none_of_length {nodes : PciResourceType → PciResNode} (hblank : BlankNodes nodes)
    {t : PciResourceType} (h : 0 < (nodes t).length.toNat) : (nodes t).status ≠ .none := by
  intro hnone
  rw [hblank t hnone] at h
  exact absurd h (by decide)

/-- Regions in apertures are far from the value that stands for a failure. -/
theorem hostBase_ne_max {t : PciResourceType} {range : DtRange}
    (hserves : ServesType bridge t range) {length x : U64} (hpos : 0 < length.toNat)
    (h : Span.Within (gcdRegion x length) ⟨(gcdFirst t range).toNat, range.length.toNat⟩) :
    x ≠ MAX_UINT64 ∧ hostBase bridge t x ≠ MAX_UINT64 := by
  have hsmall : smallLimit = 2 ^ 62 := rfl
  have hmax : MAX_UINT64.toNat = 2 ^ 64 - 1 := rfl
  have hdevice := hserves.device
  have hhost := hserves.host
  have hlow : (gcdFirst t range).toNat ≤ x.toNat := h.1
  have hhigh : x.toNat + length.toNat ≤ (gcdFirst t range).toNat + range.length.toNat := h.2
  rw [BitVec.toNat_sub] at hhost
  by_cases ht : t = .io
  · have hrt : range.rt = bridge.ioRange.rt := by
      rw [hserves.translation, ht, getTranslationByResourceType]
    rw [gcdFirst, if_pos ht] at hlow hhigh
    rw [hostBase, if_pos ht, toHostAddress, ne_eq, ne_eq, BitVec.toNat_eq, BitVec.toNat_eq,
      BitVec.toNat_sub, hmax, ← hrt]
    have hshift := range.rt.isLt
    omega
  · rw [gcdFirst, if_neg ht, BitVec.toNat_sub] at hlow hhigh
    rw [hostBase, if_neg ht, ne_eq, BitVec.toNat_eq, hmax]
    omega

theorem asks_served {s : HostBridgeState} (hsmall : SmallBridge bridge) (h : WellPlaced bridge s)
    (hblank : BlankNodes s.nodes) {t : PciResourceType} (ht : t ∈ resourceTypes) {x : U64}
    (hpos : 0 < (s.nodes t).length.toNat) (hasks : AsksFor bridge t (s.nodes t) x) :
    ∃ range, ServesType bridge t range ∧ Span.Within (gcdRegion x (s.nodes t).length)
      ⟨(gcdFirst t range).toNat, range.length.toNat⟩ := by
  obtain ⟨-, q, hq, hq'⟩ := hasks
  exact servesType_of_asks hsmall (h.small t ht (status_ne_none_of_length hblank hpos)) hpos hq hq'

theorem callKept_of_clean {s : HostBridgeState} (hsmall : SmallBridge bridge)
    (hblank : BlankNodes s.nodes) (h : WellPlaced bridge s) (c : HostBridgeCall)
    (hclean : CallClean bridge s c) : CallKept bridge s c := by
  cases c with
  | notifyPhase free leftover this phase =>
      cases this with
      | false => trivial
      | true =>
          refine ⟨hclean.1, fun hphase hsubmitted p hp x hasks hgrantable => ?_⟩
          have hpos : 0 < (s.nodes p.2).length.toNat := hgrantable.2.1.1
          obtain ⟨range, hserves, hwithin⟩ := asks_served bridge hsmall h hblank
            (mem_phaseSelections s p hp) hpos hasks
          exact ⟨hclean.2 hphase hsubmitted p hp, hostBase_ne_max bridge hserves hpos hwithin⟩
  | submitResources this handle configuration =>
      cases configuration with
      | none => trivial
      | some configuration => exact fun hok d hd => (hclean hok d hd).1
  | setBusNumbers this handle configuration => trivial
  | getProposedResources pool this handle output => trivial

theorem wellPlaced_of_nodes {s s' : HostBridgeState} (h : WellPlaced bridge s)
    (hnodes : ∀ t ∈ resourceTypes, s'.nodes t = s.nodes t ∨ (s'.nodes t).status = .none) :
    WellPlaced bridge s' := by
  constructor
  · intro t ht hstatus
    rcases hnodes t ht with hsame | hnone
    · rw [hsame] at hstatus ⊢
      exact h.small t ht hstatus
    · exact absurd hnone hstatus
  · intro t ht halloc
    rw [HostBridgeState.Allocated] at halloc
    rcases hnodes t ht with hsame | hnone
    · rw [hsame] at halloc ⊢
      exact h.placed t ht halloc
    · rw [hnone] at halloc
      cases halloc

theorem wellPlaced_setNode {s : HostBridgeState} (h : WellPlaced bridge s) (t : PciResourceType)
    (node : PciResNode) (hnode : t ∈ resourceTypes → NodeSmall bridge t node)
    (hplaced : t ∈ resourceTypes → node.status = .allocated → NodePlaced bridge t node) :
    WellPlaced bridge (s.setNode t node) := by
  have hself : (s.setNode t node).nodes t = node := Function.update_self _ _ _
  have hother (u : PciResourceType) (hut : u ≠ t) : (s.setNode t node).nodes u = s.nodes u :=
    Function.update_of_ne hut _ _
  constructor
  · intro u hu hstatus
    by_cases hut : u = t
    · subst hut
      rw [hself]
      exact hnode hu
    · rw [hother u hut] at hstatus ⊢
      exact h.small u hu hstatus
  · intro u hu halloc
    rw [HostBridgeState.Allocated] at halloc
    by_cases hut : u = t
    · subst hut
      rw [hself] at halloc ⊢
      exact hplaced hu halloc
    · rw [hother u hut] at halloc ⊢
      exact h.placed u hu halloc

theorem wellPlaced_grant {s : HostBridgeState} (h : WellPlaced bridge s) (t : PciResourceType)
    {x : U64} (gcd : Gcd) {range : DtRange} (hserves : ServesType bridge t range)
    (hnode : t ∈ resourceTypes → NodeSmall bridge t (s.nodes t))
    (hwithin : Span.Within (gcdRegion x (s.nodes t).length)
      ⟨(gcdFirst t range).toNat, range.length.toNat⟩) :
    WellPlaced bridge (s.grant bridge t x gcd) := by
  refine wellPlaced_setNode bridge (s := { s with gcd := gcd }) ⟨h.small, h.placed⟩ t _
    (fun ht => ?_)
    fun ht _ => ⟨range, hserves, ?_⟩
  · exact ⟨(hnode ht).length, (hnode ht).alignment, (hnode ht).fallback⟩
  · rw [nodeRegion, gcdBase_hostBase]
    exact hwithin

theorem wellPlaced_attempts (hsmall : SmallBridge bridge)
    (free : PciResourceType → GcdSpace → Span → Bool)
    (l : List (PciResourceType × PciResourceType)) (htypes : ∀ p ∈ l, p.2 ∈ resourceTypes)
    (r r' : EfiStatus × HostBridgeState) (hblank : BlankNodes r.2.nodes)
    (h : WellPlaced bridge r.2) (hrun : attempts bridge free l r = some r') :
    WellPlaced bridge r'.2 := by
  induction l generalizing r with
  | nil =>
      rw [attempts_nil] at hrun
      rwa [← Option.some.inj hrun]
  | cons p rest ih =>
      rw [attempts_cons, Option.bind_eq_some_iff] at hrun
      obtain ⟨m, hattempt, hrest⟩ := hrun
      have ht := htypes p List.mem_cons_self
      have hblank' := (sameKeys_attemptNode bridge p.2 (free p.1) r m hblank hattempt).2
      refine ih (fun u hu => htypes u (List.mem_cons_of_mem p hu)) m hblank' ?_ hrest
      rcases attemptNode_cases bridge (free p.1) p.2 r m hattempt with
        ⟨g, -, hstate⟩ | ⟨x, g, g', hasks, -, -, -, hgranted, hstate⟩
      · rw [hstate]
        exact ⟨h.small, h.placed⟩
      · have hpos : 0 < (r.2.nodes p.2).length.toNat :=
          (grantable_of_gcdAllocate (free p.1) p.2.space _ x g g' hgranted).2.1.1
        obtain ⟨range, hserves, hwithin⟩ := asks_served bridge hsmall h hblank ht hpos hasks
        rw [hstate]
        exact wellPlaced_grant bridge h p.2 g' hserves
          (fun _ => h.small p.2 ht (status_ne_none_of_length hblank hpos)) hwithin

theorem wellPlaced_clearLengths {s : HostBridgeState} (h : WellPlaced bridge s) :
    WellPlaced bridge (clearLengths s) := by
  constructor
  · intro t ht hstatus
    rw [nodes_clearLengths, if_pos ht] at hstatus ⊢
    rw [status_clearLength] at hstatus
    have hsmall := h.small t ht hstatus
    rw [PciResNode.clearLength]
    split
    · exact ⟨Nat.zero_le _, hsmall.alignment, hsmall.fallback⟩
    · exact hsmall
  · intro t ht halloc
    have halloc := (allocated_clearLengths s t).mp halloc
    rw [nodes_clearLengths_of_allocated s t halloc]
    exact h.placed t ht halloc

theorem wellPlaced_allocateResourcesPhase (hsmall : SmallBridge bridge)
    (free : PciResourceType → GcdSpace → Span → Bool) (s s' : HostBridgeState)
    (status : EfiStatus) (hblank : BlankNodes s.nodes) (h : WellPlaced bridge s)
    (hphase : allocateResourcesPhase bridge free s = some (status, s')) :
    WellPlaced bridge s' := by
  cases hsubmitted : s.resourceSubmitted with
  | false =>
      rw [allocateResourcesPhase, hsubmitted] at hphase
      cases hphase
      exact h
  | true =>
      rw [allocateResourcesPhase_eq bridge free s hblank hsubmitted, Option.map_eq_some_iff]
        at hphase
      obtain ⟨r, hattempts, hr⟩ := hphase
      cases hr
      exact wellPlaced_clearLengths bridge (wellPlaced_attempts bridge hsmall free _
        (mem_phaseSelections s) (.ok (), s) r hblank h hattempts)

theorem wellPlaced_freeResourcesLoop (l : List PciResourceType) (status : EfiStatus)
    (s : HostBridgeState) (h : WellPlaced bridge s) :
    WellPlaced bridge (freeResourcesLoop bridge l status s).2 := by
  induction l generalizing s status with
  | nil => exact ⟨h.small, h.placed⟩
  | cons t rest ih =>
      rw [freeResourcesLoop]
      by_cases halloc : (s.nodes t).status = .allocated
      · rw [if_pos halloc]
        cases gcdFree t.space (gcdBase bridge t (s.nodes t).base) (s.nodes t).length s.gcd with
        | error e => exact h
        | ok gcd =>
            refine ih _ _ (wellPlaced_of_nodes bridge h fun u _ => ?_)
            by_cases hut : u = t
            · have hself : (s.released t gcd).nodes t = (s.nodes t).reset :=
                Function.update_self _ _ _
              rw [hut]
              exact .inr (congrArg PciResNode.status hself)
            · exact .inl (nodes_released_of_ne s t u gcd hut)
      · rw [if_neg halloc]
        exact ih status s h

theorem wellPlaced_recordDescriptors (l : List AcpiDescriptor) (s : HostBridgeState)
    (h : WellPlaced bridge s) (hsmall : ∀ d ∈ l, DescriptorSmall bridge d) :
    WellPlaced bridge (l.foldl recordDescriptor s) := by
  induction l generalizing s with
  | nil => exact h
  | cons d rest ih =>
      have hd := hsmall d List.mem_cons_self
      refine ih _ (wellPlaced_setNode bridge h d.nodeType _ (fun _ => ?_) fun _ hstatus => ?_)
        fun e he => hsmall e (List.mem_cons_of_mem d he)
      · exact ⟨hd.length, hd.alignment, hd.fallback⟩
      · cases hstatus

theorem wellPlaced_submitResources (this : Bool) (handle : EfiHandle)
    (configuration : Option AcpiConfiguration) (s : HostBridgeState) (h : WellPlaced bridge s)
    (hclean : CallClean bridge s (.submitResources this handle configuration)) :
    WellPlaced bridge (hostBridgeSubmitResources bridge this handle configuration s).2 := by
  cases this with
  | false => exact h
  | true =>
      cases configuration with
      | none => exact h
      | some configuration =>
          rw [CallClean] at hclean
          rw [hostBridgeSubmitResources] at hclean ⊢
          split
          · exact h
          · next hcontroller =>
              rw [if_neg hcontroller] at hclean
              split
              · exact h
              · next hcheck =>
                  rw [hcheck] at hclean
                  dsimp only at hclean
                  split
                  · exact h
                  · next hend =>
                      rw [if_neg hend] at hclean
                      have hrecorded := wellPlaced_recordDescriptors bridge
                        configuration.descriptors s h fun d hd => (hclean rfl d hd).2
                      exact ⟨hrecorded.small, hrecorded.placed⟩

theorem wellPlaced_setBusNumbers (this : Bool) (handle : EfiHandle)
    (configuration : Option AcpiConfiguration) (s : HostBridgeState) (h : WellPlaced bridge s) :
    WellPlaced bridge (hostBridgeSetBusNumbers bridge this handle configuration s).2 := by
  have hbus (node : PciResNode) : WellPlaced bridge (s.setNode .bus node) :=
    wellPlaced_setNode bridge h .bus node (fun hmem => absurd hmem (by decide))
      fun hmem => absurd hmem (by decide)
  rw [hostBridgeSetBusNumbers.eq_def]
  repeat' split
  all_goals first | exact h | exact hbus _

theorem reaches_clean (hsmall : SmallBridge bridge) (s : HostBridgeState)
    (h : Reaches bridge (CallClean bridge) s) : Sound bridge s ∧ WellPlaced bridge s := by
  induction h with
  | init =>
      refine ⟨sound_init bridge, fun t _ hstatus => absurd rfl hstatus, fun t _ halloc => ?_⟩
      cases halloc
  | call s s' c _ hclean hcall ih =>
      obtain ⟨hsound, hplaced⟩ := ih
      have hkept := callKept_of_clean bridge hsmall hsound.blank hplaced c hclean
      refine ⟨sound_call bridge s s' c hsound hkept hcall, ?_⟩
      cases c with
      | notifyPhase free leftover this phase =>
          rw [hostBridgeCall, Option.map_eq_some_iff] at hcall
          obtain ⟨⟨status, s''⟩, hphase, rfl⟩ := hcall
          cases this with
          | false =>
              cases hphase
              exact hplaced
          | true =>
              cases phase with
              | beginEnumeration =>
                  have hstate := congrArg Prod.snd (Option.some.inj hphase)
                  rw [← hstate, beginEnumerationPhase]
                  cases s.canRestart with
                  | false => exact hplaced
                  | true => exact wellPlaced_of_nodes bridge hplaced fun _ _ => .inr rfl
              | allocateResources =>
                  exact wellPlaced_allocateResourcesPhase bridge hsmall free s s'' status
                    hsound.blank hplaced hphase
              | freeResources =>
                  have hstate := congrArg Prod.snd (Option.some.inj hphase)
                  rw [← hstate]
                  exact wellPlaced_freeResourcesLoop bridge resourceTypes leftover s hplaced
              | beginBusAllocation =>
                  cases hphase
                  exact ⟨hplaced.small, hplaced.placed⟩
              | endBusAllocation | beginResourceAllocation | setResources | endResourceAllocation
              | endEnumeration | maximum =>
                  cases hphase
                  exact hplaced
      | submitResources this handle configuration =>
          rw [← Option.some.inj hcall]
          exact wellPlaced_submitResources bridge this handle configuration s hplaced hclean
      | setBusNumbers this handle configuration =>
          rw [← Option.some.inj hcall]
          exact wellPlaced_setBusNumbers bridge this handle configuration s hplaced
      | getProposedResources =>
          rw [← Option.some.inj hcall]
          exact hplaced

end Runs

/-! Accesses. -/

/-- Windows that share a device address translate it alike. -/
def WindowsAgree (b : RoutedBridge) : Prop :=
  ∀ space, ∀ range ∈ b.bridge.windows space, ∀ range' ∈ b.bridge.windows space, ∀ address,
    range.Holds address → range'.Holds address → range.rt = range'.rt

/-- An access to the region of a node, as far from its start as the request is from the start
of the addresses proposed for it. -/
structure AccessInside (bridge : PciHostBridge) (t : PciResourceType) (node : PciResNode)
    (q : SpaceRequest) (a : RegAccess) : Prop where
  width : a.width = q.width
  count : a.count = q.count
  start : (gcdBase bridge t a.target.hostAddress).toNat =
    (nodeRegion bridge t node).base + (q.address.toNat - (deviceSpan bridge t node).base)
  inside : Span.Within ⟨(gcdBase bridge t a.target.hostAddress).toNat, q.extent⟩
    (nodeRegion bridge t node)

/-- The region told by a satisfied descriptor is held, is no other node's, and is what the
accesses to it reach. -/
structure DescriptorServed (b : RoutedBridge) (bridge : PciHostBridge) (s : HostBridgeState)
    (d : AcpiDescriptor) : Prop where
  held : nodeRegion bridge d.nodeType (s.nodes d.nodeType) ∈ (s.gcd d.nodeType.space).held
  separate : ∀ t ∈ resourceTypes, t ≠ d.nodeType → t.space = d.nodeType.space → s.Allocated t →
    Span.Disjoint (nodeRegion bridge t (s.nodes t))
      (nodeRegion bridge d.nodeType (s.nodes d.nodeType))
  served : ∀ q : SpaceRequest, q.space = d.nodeType.accessSpace → q.Aligned →
    Span.Within ⟨q.address.toNat, q.extent⟩ (gcdRegion d.addrRangeMin d.addrLen) →
    ∃ a, spaceAccess b.bridge q = .ok a ∧
      AccessInside bridge d.nodeType (s.nodes d.nodeType) q a

section Accesses

variable {bridge : PciHostBridge} {t : PciResourceType} {node : PciResNode} {range : DtRange}

/-- Device and GCD addresses of a node are as far into the aperture as each other. -/
theorem deviceSpan_of_served (hserves : ServesType bridge t range)
    (hpos : 0 < node.length.toNat)
    (h : Span.Within (nodeRegion bridge t node) ⟨(gcdFirst t range).toNat, range.length.toNat⟩) :
    (deviceSpan bridge t node).base + (gcdFirst t range).toNat =
        (nodeRegion bridge t node).base + range.rb.toNat ∧
      Span.Within (deviceSpan bridge t node) (rangeSpan range) := by
  have hsmall : smallLimit = 2 ^ 62 := rfl
  have hdevice := hserves.device
  have hhost := hserves.host
  have hlow : (gcdFirst t range).toNat ≤ (gcdBase bridge t node.base).toNat := h.1
  have hhigh : (gcdBase bridge t node.base).toNat + node.length.toNat ≤
      (gcdFirst t range).toNat + range.length.toNat := h.2
  rw [deviceSpan, nodeRegion, gcdRegion, gcdRegion, rangeSpan, Span.Within, Span.limit_mk,
    Span.limit_mk]
  dsimp only
  rw [toDeviceAddress, ← hserves.translation]
  by_cases ht : t = .io
  · have hrt : bridge.ioRange.rt = range.rt := by
      rw [hserves.translation, ht, getTranslationByResourceType]
    rw [gcdFirst, if_pos ht, gcdBase, if_pos ht, toDeviceAddress, hrt] at hlow hhigh
    rw [gcdFirst, if_pos ht, gcdBase, if_pos ht, toDeviceAddress, hrt]
    omega
  · rw [gcdFirst, if_neg ht, gcdBase, if_neg ht] at hlow hhigh
    rw [gcdFirst, if_neg ht, gcdBase, if_neg ht, BitVec.toNat_add]
    have hshift := range.rt.isLt
    rw [BitVec.toNat_sub] at hhost hlow hhigh ⊢
    omega

theorem gcdBase_of_access (hserves : ServesType bridge t range) (address : U64)
    (hholds : range.Holds address.toNat) :
    (gcdBase bridge t (address - range.rt)).toNat + range.rb.toNat =
      address.toNat + (gcdFirst t range).toNat := by
  have hsmall : smallLimit = 2 ^ 62 := rfl
  have hdevice := hserves.device
  have hhost := hserves.host
  obtain ⟨hlow, hhigh⟩ := hholds
  by_cases ht : t = .io
  · have hrt : bridge.ioRange.rt = range.rt := by
      rw [hserves.translation, ht, getTranslationByResourceType]
    rw [gcdBase, if_pos ht, gcdFirst, if_pos ht, toDeviceAddress, hrt, BitVec.sub_add_cancel]
  · rw [gcdBase, if_neg ht, gcdFirst, if_neg ht]
    have hshift := range.rt.isLt
    rw [BitVec.toNat_sub] at hhost
    rw [BitVec.toNat_sub, BitVec.toNat_sub]
    omega

theorem served_of_placed (b : RoutedBridge) (hb : bridge.toPciRootBridge = b.bridge)
    (hagree : WindowsAgree b) (hserves : ServesType bridge t range)
    (hpos : 0 < node.length.toNat)
    (hwithin : Span.Within (nodeRegion bridge t node)
      ⟨(gcdFirst t range).toNat, range.length.toNat⟩)
    (q : SpaceRequest) (hspace : q.space = t.accessSpace) (haligned : q.Aligned)
    (hinside : Span.Within ⟨q.address.toNat, q.extent⟩ (deviceSpan bridge t node)) :
    ∃ a, spaceAccess b.bridge q = .ok a ∧ AccessInside bridge t node q a := by
  obtain ⟨hbase, hdevice⟩ := deviceSpan_of_served hserves hpos hwithin
  have hin : q.InRange range :=
    ⟨hserves.valid, Nat.le_trans hdevice.1 hinside.1, Nat.le_trans hinside.2 hdevice.2⟩
  have hmem : range ∈ b.bridge.windows q.space := by
    rw [← hb, hspace]
    exact hserves.mem
  have htop : range.rb.toNat + range.length.toNat < 2 ^ 64 :=
    Nat.lt_of_le_of_lt hserves.device (by decide)
  obtain ⟨range', hmem', hin', a, haccess, hhosted⟩ :=
    spaceAccess_accepted b q haligned ⟨range, hmem, hin, htop⟩
  have hrt := hagree q.space range hmem range' hmem' q.address.toNat
    (holds_of_inRange hin (extent_pos q)) (holds_of_inRange hin' (extent_pos q))
  obtain ⟨haddress, -, hwidth, hcount⟩ := hhosted
  have hstart := gcdBase_of_access hserves q.address (holds_of_inRange hin (extent_pos q))
  rw [hrt, ← haddress] at hstart
  have hfirst : (deviceSpan bridge t node).base ≤ q.address.toNat := hinside.1
  have hlast : q.address.toNat + q.extent ≤
      (deviceSpan bridge t node).base + node.length.toNat := hinside.2
  have hlength : (nodeRegion bridge t node).limit =
      (nodeRegion bridge t node).base + node.length.toNat := rfl
  refine ⟨a, haccess, hwidth, hcount, by omega, ?_, ?_⟩
  · dsimp only
    omega
  · rw [hlength, Span.limit_mk]
    omega

end Accesses

def shiftedHostBridge : PciHostBridge where
  toPciRootBridge := shiftedBridge.bridge
  controller := 1
  allocationAttributes := 0

def shiftedRequest : AcpiConfiguration := ⟨[⟨0, 0, 64, 0, 0xfff, 0, 0x1000⟩], 0x79⟩

def submittedShifted : HostBridgeState :=
  (hostBridgeSubmitResources shiftedHostBridge true 1 (some shiftedRequest) hostBridgeInit).2

def allocateShifted : HostBridgeCall :=
  .notifyPhase (fun _ _ _ => true) (.ok ()) true .allocateResources

theorem allocateShifted_returns :
    (hostBridgeCall shiftedHostBridge submittedShifted allocateShifted).isSome = true := by
  decide

def allocatedShifted : HostBridgeState :=
  (hostBridgeCall shiftedHostBridge submittedShifted allocateShifted).get allocateShifted_returns

theorem shiftedBridge_agrees : WindowsAgree shiftedBridge := by
  intro space range hmem range' hmem' address h h'
  obtain ⟨-, hrange⟩ := windows_shiftedBridge space range hmem address h
  obtain ⟨-, hrange'⟩ := windows_shiftedBridge space range' hmem' address h'
  rcases hrange with rfl | rfl <;> rcases hrange' with rfl | rfl
  · rfl
  · exact absurd (Nat.lt_of_le_of_lt h'.1 h.2) (by decide)
  · exact absurd (Nat.lt_of_le_of_lt h.1 h'.2) (by decide)
  · rfl

theorem shiftedHostBridge_small : SmallBridge shiftedHostBridge := by
  intro a
  cases a <;> decide

theorem reaches_allocatedShifted :
    Reaches shiftedHostBridge (CallClean shiftedHostBridge) allocatedShifted := by
  refine .call submittedShifted allocatedShifted allocateShifted
    (.call hostBridgeInit submittedShifted
      (.submitResources true 1 (some shiftedRequest)) .init ?_ rfl) ?_
    (Option.some_get allocateShifted_returns).symm
  · intro _ d hd
    rw [List.mem_singleton.mp hd]
    exact ⟨by decide, by decide, by decide, fun hvalid => absurd hvalid (by decide)⟩
  · refine ⟨fun hphase => ?_, fun _ _ p hp => ?_⟩
    · cases hphase
    · have hselected : phaseSelections submittedShifted = [(.mem64, .mem64)] := by decide
      rw [hselected, List.mem_singleton] at hp
      rw [hp]
      decide

end FdtBusPkg
