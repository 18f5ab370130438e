import FdtBusPkg.Pci.AllocatePhase
import FdtBusPkg.Pci.Ranges

/-!
The resources proposed after an allocation phase, against the regions allocated.
A node is reported with the translation of its own type, whatever aperture it
was satisfied from, so the report is right exactly when every address that any
of its searches can ask for lies in an aperture with that translation.
-/
namespace FdtBusPkg

/-! Requests. -/

structure ResRequest where
  length : U64
  alignment : U64
  isMask : ∃ n ≤ 64, alignment.toNat + 1 = 2 ^ n

/-- The table of nodes after the requests are submitted. -/
def requestNodes (requests : PciResourceType → Option ResRequest) (t : PciResourceType) :
    PciResNode :=
  match requests t with
  | some r => ⟨0, r.length, r.alignment, .submitted⟩
  | none => ⟨0, 0, 0, .none⟩

def requestedState (requests : PciResourceType → Option ResRequest) (gcd : Gcd) :
    HostBridgeState where
  nodes := requestNodes requests
  resourceSubmitted := true
  canRestart := false
  gcd := gcd

theorem blank_requestNodes (requests : PciResourceType → Option ResRequest) :
    BlankNodes (requestNodes requests) := by
  intro t ht
  rw [requestNodes] at ht ⊢
  cases hr : requests t with
  | none => rfl
  | some r => rw [hr] at ht; contradiction

theorem requestNodes_of_some (requests : PciResourceType → Option ResRequest)
    (t : PciResourceType) (r : ResRequest) (h : requests t = some r) :
    requestNodes requests t = ⟨0, r.length, r.alignment, .submitted⟩ := by
  rw [requestNodes, h]

/-! What is reported. -/

def apertures (bridge : PciHostBridge) (t : PciResourceType) : List DtRange :=
  if t = .io then [bridge.ioRange]
  else [bridge.memRange, bridge.pMemRange, bridge.memAbove4GRange, bridge.pMemAbove4GRange]

def rangeSpan (range : DtRange) : Span := ⟨range.rb.toNat, range.length.toNat⟩

/-- The first GCD address for a device address: that of the host, but for I/O. -/
def gcdAddress (t : PciResourceType) (range : DtRange) (deviceAddress : U64) : U64 :=
  if t = .io then deviceAddress else toHostAddress deviceAddress range.rt

/-- The descriptor tells the node, lies in one aperture whose translation leads to the region
allocated, is as long and as aligned as requested, and agrees with `Configuration`. -/
structure DescriptorRight (bridge : PciHostBridge)
    (requests : PciResourceType → Option ResRequest) (s : HostBridgeState)
    (d : AcpiDescriptor) : Prop where
  requested : ∃ r, requests d.nodeType = some r ∧ d.addrLen = r.length ∧
    r.alignment.toNat + 1 ∣ d.addrRangeMin.toNat
  inside : ∃ range ∈ apertures bridge d.nodeType, range.valid = true ∧
    Span.Within (gcdRegion d.addrRangeMin d.addrLen) (rangeSpan range) ∧
    gcdRegion (gcdAddress d.nodeType range d.addrRangeMin) d.addrLen =
      nodeRegion bridge d.nodeType (s.nodes d.nodeType) ∧
    gcdRegion (gcdAddress d.nodeType range d.addrRangeMin) d.addrLen ∈
      (s.gcd d.nodeType.space).held
  configuration : ∃ c ∈ (rootBridgeIoConfiguration bridge s).descriptors,
    c.resType = d.resType ∧ c.specificFlag = d.specificFlag ∧
    c.addrSpaceGranularity = d.addrSpaceGranularity ∧
    toDeviceAddress c.addrRangeMin c.addrTranslationOffset = d.addrRangeMin ∧
    c.addrLen = d.addrLen

/-- Whatever the GCD holds and grants, the allocation phase returns, and every descriptor
reported as satisfied after it is right. -/
def ProposedRight (bridge : PciHostBridge) (requests : PciResourceType → Option ResRequest) :
    Prop :=
  ∀ gcd free leftover, ∃ status s,
    hostBridgeNotifyPhase bridge free leftover true .allocateResources
      (requestedState requests gcd) = some (status, s) ∧
    ∀ configuration, hostBridgeGetProposedResources bridge true true bridge.controller true s =
        .ok configuration →
      ∀ d ∈ configuration.descriptors, d.addrTranslationOffset = EFI_RESOURCE_SATISFIED →
        DescriptorRight bridge requests s d

/-! The condition on apertures and requests. -/

/-- The device address reported for a region allocated at `x`. -/
def reportedAddress (bridge : PciHostBridge) (t : PciResourceType) (x : U64) : U64 :=
  toDeviceAddress (hostBase bridge t x) (getTranslationByResourceType bridge.toPciRootBridge t)

/-- `x` is a multiple of an alignment that was clipped, and the region at `x` lies in the window
of a present aperture with the translation of the type requested. -/
structure AddressFits (bridge : PciHostBridge) (t : PciResourceType) (r : ResRequest)
    (q : ApertureSearch) (x : U64) : Prop where
  aligned : q.step.toNat ≤ r.alignment.toNat → r.alignment.toNat + 1 ∣ x.toNat
  window : ∃ range ∈ apertures bridge t, range.valid = true ∧
    (t ≠ .io → range.rt = getTranslationByResourceType bridge.toPciRootBridge t) ∧
    Span.Within (gcdRegion (reportedAddress bridge t x) r.length) (rangeSpan range)

/-- A region of this length at `x` does not run past the address space, and is told apart
from a failure. -/
def Recordable (bridge : PciHostBridge) (t : PciResourceType) (length x : U64) : Prop :=
  (0 < length.toNat ∧ x.toNat + length.toNat ≤ 2 ^ 64) ∧ x ≠ MAX_UINT64 ∧
    hostBase bridge t x ≠ MAX_UINT64

/-- What the phase attempts for these requests. -/
def requestSelections (requests : PciResourceType → Option ResRequest) :
    List (PciResourceType × PciResourceType) :=
  selections (requestNodes requests) resourceTypes fun _ => false

/-- For every request the phase attempts, in every aperture it searches, the search ends, and
each address it asks for fits. -/
def SearchesFit (bridge : PciHostBridge) (requests : PciResourceType → Option ResRequest) : Prop :=
  ∀ p ∈ requestSelections requests,
    TranslationAligned bridge p.2 (requestNodes requests p.2) →
    ∀ q ∈ searches bridge (requestNodes requests p.2) p.2,
      q.Ends (requestNodes requests p.2).length ∧
      ∀ r, requests p.2 = some r → ∀ x, q.Asks r.length x →
        Recordable bridge p.2 r.length x → AddressFits bridge p.2 r q x

section Alignment

variable (bridge : PciHostBridge) (t : PciResourceType) (r : ResRequest)

theorem lowBitSet64_twoPow (n : Nat) (hn : n < 64) :
    lowBitSet64 (BitVec.twoPow 64 n) = BitVec.ofNat 64 n := by
  have hall : ∀ n : Fin 64, lowBitSet64 (BitVec.twoPow 64 n) = BitVec.ofNat 64 n := by decide
  exact hall ⟨n, hn⟩

theorem bits_of_searches (node : PciResNode) (q : ApertureSearch)
    (hq : q ∈ searches bridge node t) :
    ∃ maxBits : U64, maxBits.toNat < 64 ∧
      q.bitsOfAlignment = MIN maxBits (lowBitSet64 (node.alignment + 1)) := by
  cases t with
  | io =>
      rw [List.mem_singleton.mp hq]
      exact ⟨15, by decide, rfl⟩
  | mem32 | pMem32 =>
      rw [List.mem_singleton.mp hq]
      exact ⟨31, by decide, rfl⟩
  | mem64 | pMem64 =>
      rcases List.mem_cons.mp hq with rfl | hq
      · exact ⟨63, by decide, rfl⟩
      · rw [List.mem_singleton.mp hq]
        exact ⟨31, by decide, rfl⟩
  | bus => exact absurd hq List.not_mem_nil

theorem bits_lt (node : PciResNode) (q : ApertureSearch) (hq : q ∈ searches bridge node t) :
    q.bitsOfAlignment.toNat < 64 := by
  obtain ⟨maxBits, hmax, hbits⟩ := bits_of_searches bridge t node q hq
  rw [hbits, toNat_MIN]
  omega

theorem step_le (node : PciResNode) (q : ApertureSearch) (halignment : node.alignment = r.alignment)
    (hq : q ∈ searches bridge node t) : q.step.toNat ≤ r.alignment.toNat + 1 := by
  obtain ⟨maxBits, hmax, hbits⟩ := bits_of_searches bridge t node q hq
  obtain ⟨n, hn, hmask⟩ := r.isMask
  by_cases hn64 : n = 64
  · rw [hmask, hn64]
    exact q.step.isLt.le
  · have hpower : r.alignment + 1 = BitVec.twoPow 64 n := by
      apply BitVec.eq_of_toNat_eq
      have hone : (1 : U64).toNat = 1 := rfl
      rw [BitVec.toNat_add, hone, hmask, BitVec.toNat_twoPow]
    have hlow : (BitVec.ofNat 64 n).toNat = n := by
      rw [BitVec.toNat_ofNat]
      omega
    rw [q.toNat_step (bits_lt bridge t node q hq), hbits, halignment, hpower,
      lowBitSet64_twoPow n (by omega), toNat_MIN, hlow, hmask]
    exact Nat.pow_le_pow_right (by decide) (Nat.min_le_right _ _)

theorem alignment_dvd : r.alignment.toNat + 1 ∣ 2 ^ 64 := by
  obtain ⟨n, hn, hmask⟩ := r.isMask
  rw [hmask]
  exact Nat.pow_dvd_pow 2 hn

theorem dvd_translation (node : PciResNode) (halignment : node.alignment = r.alignment)
    (haligned : TranslationAligned bridge t node) :
    r.alignment.toNat + 1 ∣ (getTranslationByResourceType bridge.toPciRootBridge t).toNat := by
  obtain ⟨n, hn, hmask⟩ := r.isMask
  have hlow : r.alignment = Align.lowMask 64 n := by
    apply BitVec.eq_of_toNat_eq
    rw [Align.lowMask, BitVec.toNat_ofNat]
    omega
  rw [TranslationAligned, halignment, hlow] at haligned
  have hmod := congrArg BitVec.toNat haligned
  rw [Align.toNat_and_lowMask _ n hn] at hmod
  rw [hmask]
  exact Nat.dvd_of_mod_eq_zero hmod

theorem reportedAddress_io (x : U64) : reportedAddress bridge .io x = x :=
  BitVec.sub_add_cancel x _

theorem reportedAddress_memory (x : U64) (ht : t ≠ .io) :
    reportedAddress bridge t x =
      x + getTranslationByResourceType bridge.toPciRootBridge t := by
  rw [reportedAddress, hostBase, if_neg ht, toDeviceAddress]

theorem dvd_reportedAddress (node : PciResNode) (halignment : node.alignment = r.alignment)
    (haligned : TranslationAligned bridge t node) (x : U64) :
    r.alignment.toNat + 1 ∣ (reportedAddress bridge t x).toNat ↔
      r.alignment.toNat + 1 ∣ x.toNat := by
  by_cases ht : t = .io
  · rw [ht, reportedAddress_io]
  · rw [reportedAddress_memory bridge t x ht, BitVec.toNat_add,
      Nat.dvd_mod_iff (alignment_dvd r)]
    exact (Nat.dvd_add_iff_left (dvd_translation bridge t r node halignment haligned)).symm

/-- An address asked for is reported as aligned, unless the alignment was clipped. -/
theorem aligned_iff (node : PciResNode) (halignment : node.alignment = r.alignment)
    (haligned : TranslationAligned bridge t node) (q : ApertureSearch)
    (hq : q ∈ searches bridge node t) (length x : U64) (hasks : q.Asks length x) :
    r.alignment.toNat + 1 ∣ (reportedAddress bridge t x).toNat ↔
      (q.step.toNat ≤ r.alignment.toNat → r.alignment.toNat + 1 ∣ x.toNat) := by
  rw [dvd_reportedAddress bridge t r node halignment haligned]
  refine ⟨fun h _ => h, fun h => ?_⟩
  by_cases hclipped : q.step.toNat ≤ r.alignment.toNat
  · exact h hclipped
  · have hstep : q.step.toNat = r.alignment.toNat + 1 := by
      have hle := step_le bridge t r node q halignment hq
      omega
    rw [← hstep]
    exact q.dvd_of_asks length x (bits_lt bridge t node q hq) hasks

end Alignment

section Reports

variable (bridge : PciHostBridge) (requests : PciResourceType → Option ResRequest)
  (s : HostBridgeState) (t : PciResourceType)

theorem nodeType_of_proposed (ht : t ∈ resourceTypes) (d : AcpiDescriptor)
    (h : proposedDescriptor bridge s t = some d) : d.nodeType = t := by
  have hfields : d.resType = t.acpiFields.1 ∧ d.specificFlag = t.acpiFields.2.1 ∧
      d.addrSpaceGranularity = t.acpiFields.2.2 := by
    rw [proposedDescriptor] at h
    by_cases hnone : (s.nodes t).status = .none
    · simp [hnone] at h
    · simp only [hnone, ne_eq, not_false_eq_true, if_true, Option.some.injEq] at h
      rw [← h]
      exact ⟨rfl, rfl, rfl⟩
  obtain ⟨hres, hflag, hgranularity⟩ := hfields
  rw [AcpiDescriptor.nodeType, AcpiDescriptor.prefetchable, hres, hflag, hgranularity]
  cases t with
  | bus => exact absurd ht (by decide)
  | io | mem32 | pMem32 | mem64 | pMem64 => decide

theorem proposed_of_allocated (halloc : s.Allocated t) (d : AcpiDescriptor)
    (h : proposedDescriptor bridge s t = some d) :
    d.addrRangeMin = toDeviceAddress (s.nodes t).base
        (getTranslationByResourceType bridge.toPciRootBridge t) ∧
      d.addrLen = (s.nodes t).length ∧ d.addrTranslationOffset = EFI_RESOURCE_SATISFIED ∧
      ∃ c, configurationDescriptor bridge s t = some c ∧ c.resType = d.resType ∧
        c.specificFlag = d.specificFlag ∧ c.addrSpaceGranularity = d.addrSpaceGranularity ∧
        toDeviceAddress c.addrRangeMin c.addrTranslationOffset = d.addrRangeMin ∧
        c.addrLen = d.addrLen := by
  rw [HostBridgeState.Allocated] at halloc
  simp only [proposedDescriptor, halloc, ne_eq, reduceCtorEq, not_false_eq_true, if_true,
    Option.some.injEq] at h
  rw [← h]
  refine ⟨rfl, rfl, rfl, ?_⟩
  simp only [configurationDescriptor, halloc, ne_eq, not_true_eq_false, if_false,
    Option.some.injEq, exists_eq_left', and_self]

theorem exists_proposed (halloc : s.Allocated t) : ∃ d, proposedDescriptor bridge s t = some d := by
  rw [HostBridgeState.Allocated] at halloc
  simp only [proposedDescriptor, halloc, ne_eq, reduceCtorEq, not_false_eq_true, if_true,
    Option.some.injEq, exists_eq']

theorem allocated_of_satisfied (d : AcpiDescriptor) (h : proposedDescriptor bridge s t = some d)
    (hsatisfied : d.addrTranslationOffset = EFI_RESOURCE_SATISFIED) : s.Allocated t := by
  rw [HostBridgeState.Allocated]
  by_contra hstatus
  rw [proposedDescriptor] at h
  by_cases hnone : (s.nodes t).status = .none
  · simp [hnone] at h
  · simp only [hnone, hstatus, ne_eq, not_false_eq_true, if_true, if_false,
      Option.some.injEq] at h
    rw [← h] at hsatisfied
    have hless : PCI_RESOURCE_LESS = EFI_RESOURCE_SATISFIED := hsatisfied
    exact absurd hless (by decide)

/-- The node of a request, with the region at `x`. -/
def GivenAt (r : ResRequest) (x : U64) : Prop :=
  s.nodes t = ⟨hostBase bridge t x, r.length, r.alignment, .allocated⟩ ∧
    gcdRegion x r.length ∈ (s.gcd t.space).held

theorem nodeRegion_of_givenAt (r : ResRequest) (x : U64) (h : GivenAt bridge s t r x) :
    nodeRegion bridge t (s.nodes t) = gcdRegion x r.length := by
  rw [h.1, nodeRegion, gcdBase_hostBase]

theorem gcdAddress_reportedAddress (range : DtRange) (x : U64) :
    gcdAddress t range (reportedAddress bridge t x) = x ↔
      (t ≠ .io → range.rt = getTranslationByResourceType bridge.toPciRootBridge t) := by
  rw [gcdAddress]
  by_cases ht : t = .io
  · rw [if_pos ht, ht, reportedAddress_io]
    simp only [ne_eq, not_true_eq_false, false_implies]
  · rw [if_neg ht, reportedAddress_memory bridge t x ht, toHostAddress, BitVec.sub_eq_iff_eq_add,
      BitVec.add_right_inj]
    exact ⟨fun h _ => h.symm, fun h => (h ht).symm⟩

/-- A region that fits is described right, and one that does not is not. -/
theorem descriptorRight_iff (ht : t ∈ resourceTypes) (node : PciResNode) (r : ResRequest)
    (hr : requests t = some r) (halignment : node.alignment = r.alignment)
    (haligned : TranslationAligned bridge t node) (q : ApertureSearch)
    (hq : q ∈ searches bridge node t) (x : U64) (hasks : q.Asks r.length x)
    (hgiven : GivenAt bridge s t r x) (d : AcpiDescriptor)
    (hd : proposedDescriptor bridge s t = some d) :
    DescriptorRight bridge requests s d ↔ AddressFits bridge t r q x := by
  have halloc : s.Allocated t := by
    rw [HostBridgeState.Allocated, hgiven.1]
  have htype := nodeType_of_proposed bridge s t ht d hd
  obtain ⟨hmin, hlen, -, c, hc, hsame⟩ := proposed_of_allocated bridge s t halloc d hd
  have hregion := nodeRegion_of_givenAt bridge s t r x hgiven
  rw [hgiven.1] at hmin hlen
  rw [← reportedAddress] at hmin
  have haddress (range : DtRange) : gcdRegion (gcdAddress t range d.addrRangeMin) d.addrLen =
      gcdRegion x r.length ↔
        (t ≠ .io → range.rt = getTranslationByResourceType bridge.toPciRootBridge t) := by
    rw [← gcdAddress_reportedAddress bridge t range x, hmin, hlen, gcdRegion, gcdRegion,
      Span.mk.injEq, BitVec.toNat_inj]
    simp only [and_true]
  constructor
  · rintro ⟨⟨r', hr', -, hdvd⟩, ⟨range, hrange, hvalid, hwithin, hshift, -⟩, -⟩
    rw [htype, hr] at hr'
    obtain rfl := Option.some.inj hr'
    rw [htype] at hrange hshift
    rw [hregion] at hshift
    rw [hmin] at hdvd
    rw [hmin, hlen] at hwithin
    exact ⟨(aligned_iff bridge t r node halignment haligned q hq r.length x hasks).mp hdvd,
      range, hrange, hvalid, (haddress range).mp hshift, hwithin⟩
  · rintro ⟨hdvd, range, hrange, hvalid, htranslation, hwithin⟩
    have hshift := (haddress range).mpr htranslation
    refine ⟨⟨r, by rw [htype, hr], hlen, ?_⟩, ⟨range, ?_, hvalid, ?_, ?_, ?_⟩, c, ?_, hsame⟩
    · rw [hmin]
      exact (aligned_iff bridge t r node halignment haligned q hq r.length x hasks).mpr hdvd
    · rwa [htype]
    · rwa [hmin, hlen]
    · rw [htype, hregion]
      exact hshift
    · rw [htype, hshift]
      exact hgiven.2
    · rw [rootBridgeIoConfiguration]
      exact List.mem_filterMap.mpr ⟨t, List.mem_append_left _ ht, hc⟩

theorem givenAt_mono (s' : HostBridgeState) (r : ResRequest) (x : U64)
    (h : GivenAt bridge s t r x) (hnode : s'.nodes t = s.nodes t) (hheld : HeldIn s.gcd s'.gcd) :
    GivenAt bridge s' t r x :=
  ⟨hnode.trans h.1, hheld t.space _ h.2⟩

theorem givenAt_clearLengths (r : ResRequest) (x : U64) (h : GivenAt bridge s t r x) :
    GivenAt bridge (clearLengths s) t r x := by
  have halloc : s.Allocated t := by rw [HostBridgeState.Allocated, h.1]
  exact givenAt_mono bridge s t _ r x h (nodes_clearLengths_of_allocated s t halloc)
    (heldIn_refl s.gcd)

theorem givenAt_grant (free : GcdSpace → Span → Bool) (r : ResRequest) (x : U64) (gcd gcd' : Gcd)
    (hnode : s.nodes t = requestNodes requests t) (hr : requests t = some r)
    (hgranted : gcdAllocate free t.space r.length x gcd = some gcd') :
    GivenAt bridge (s.grant bridge t x gcd') t r x := by
  constructor
  · rw [nodes_grant_self, hnode, requestNodes_of_some requests t r hr]
  · exact (held_of_gcdAllocate free t.space r.length x gcd gcd' hgranted t.space _).mpr
      (Or.inl ⟨rfl, rfl⟩)

end Reports

/-! Every search fits: the phase returns, and all it places fits. -/

section Sufficient

variable (bridge : PciHostBridge) (requests : PciResourceType → Option ResRequest)

/-- Every allocated node is that of a request, placed where one of its searches asked and
where it fits. -/
def NodesPlaced (s : HostBridgeState) : Prop :=
  ∀ t ∈ resourceTypes, s.Allocated t → ∃ r q x, requests t = some r ∧
    TranslationAligned bridge t (requestNodes requests t) ∧
    q ∈ searches bridge (requestNodes requests t) t ∧ q.Asks r.length x ∧
    AddressFits bridge t r q x ∧ GivenAt bridge s t r x

theorem placed_of_frame (t : PciResourceType) (s s' : HostBridgeState)
    (hframe : AttemptFrame t s s') (hplaced : NodesPlaced bridge requests s)
    (hnew : s'.Allocated t → s'.nodes t ≠ s.nodes t → ∃ r q x, requests t = some r ∧
      TranslationAligned bridge t (requestNodes requests t) ∧
      q ∈ searches bridge (requestNodes requests t) t ∧ q.Asks r.length x ∧
      AddressFits bridge t r q x ∧ GivenAt bridge s' t r x) :
    NodesPlaced bridge requests s' := by
  intro u hu halloc
  by_cases hsame : s'.nodes u = s.nodes u
  · rw [HostBridgeState.Allocated, hsame] at halloc
    obtain ⟨r, q, x, hr, haligned, hq, hasks, hfits, hgiven⟩ := hplaced u hu halloc
    exact ⟨r, q, x, hr, haligned, hq, hasks, hfits,
      givenAt_mono bridge s u s' r x hgiven hsame hframe.held⟩
  · have hut : u = t := by
      by_contra hne
      exact hsame (hframe.others u hne)
    rw [hut] at halloc hsame ⊢
    exact hnew halloc hsame

theorem placed_attemptNode (free : GcdSpace → Span → Bool) (p : PciResourceType × PciResourceType)
    (r r' : EfiStatus × HostBridgeState) (hfit : SearchesFit bridge requests)
    (hp : p ∈ requestSelections requests)
    (hnode : r.2.nodes p.2 = requestNodes requests p.2) (hplaced : NodesPlaced bridge requests r.2)
    (h : attemptNode bridge free p.2 r = some r') : NodesPlaced bridge requests r'.2 := by
  apply placed_of_frame bridge requests p.2 r.2 r'.2 (attemptFrame bridge p.2 free r r' h) hplaced
  intro _ hchanged
  rcases attemptNode_cases bridge free p.2 r r' h with
    ⟨g, -, hstate⟩ | ⟨x, g, g', ⟨haligned, q, hq, hasks⟩, hx, hhost, -, hgranted, hstate⟩
  · rw [hstate] at hchanged
    exact absurd rfl hchanged
  · rw [hnode] at haligned hq hasks hgranted
    have hbounds := (grantable_of_gcdAllocate free p.2.space _ x g g' hgranted).2.1
    cases hr : requests p.2 with
    | none =>
        have hlength : (requestNodes requests p.2).length = 0 := by rw [requestNodes, hr]
        rw [hlength] at hbounds
        exact absurd hbounds.1 (Nat.lt_irrefl 0)
    | some request =>
        have hrequest := requestNodes_of_some requests p.2 request hr
        have hlength : (requestNodes requests p.2).length = request.length := by rw [hrequest]
        rw [hlength] at hasks hbounds hgranted
        refine ⟨request, q, x, rfl, haligned, hq, hasks, ?_, ?_⟩
        · exact ((hfit p hp haligned q hq).2 request hr x hasks) ⟨hbounds, hx, hhost⟩
        · rw [hstate]
          exact givenAt_grant bridge requests r.2 p.2 free request x g g' hnode hr hgranted

theorem placed_attempts (free : PciResourceType → GcdSpace → Span → Bool)
    (l : List (PciResourceType × PciResourceType)) (r : EfiStatus × HostBridgeState)
    (hfit : SearchesFit bridge requests) (hnodup : (l.map Prod.snd).Nodup)
    (hl : ∀ p ∈ l, p ∈ requestSelections requests)
    (hnodes : ∀ p ∈ l, r.2.nodes p.2 = requestNodes requests p.2)
    (hplaced : NodesPlaced bridge requests r.2) :
    ∃ r', attempts bridge free l r = some r' ∧ NodesPlaced bridge requests r'.2 := by
  induction l generalizing r with
  | nil => exact ⟨r, rfl, hplaced⟩
  | cons p rest ih =>
      rw [List.map_cons, List.nodup_cons] at hnodup
      have hp := hl p List.mem_cons_self
      have hnode := hnodes p List.mem_cons_self
      have hends : TranslationAligned bridge p.2 (r.2.nodes p.2) →
          ∀ q ∈ searches bridge (r.2.nodes p.2) p.2, q.Ends (r.2.nodes p.2).length := by
        rw [hnode]
        exact fun haligned q hq => (hfit p hp haligned q hq).1
      obtain ⟨m, hattempt⟩ := Option.ne_none_iff_exists'.mp
        (attemptNode_ne_none bridge (free p.1) p.2 r hends)
      have hframe := attemptFrame bridge p.2 (free p.1) r m hattempt
      rw [attempts_cons, hattempt, Option.bind_some]
      apply ih m hnodup.2 (fun q hq => hl q (List.mem_cons_of_mem p hq))
      · intro q hq
        have hne : q.2 ≠ p.2 := fun heq => hnodup.1 (heq ▸ List.mem_map_of_mem hq)
        rw [hframe.others q.2 hne]
        exact hnodes q (List.mem_cons_of_mem p hq)
      · exact placed_attemptNode bridge requests (free p.1) p r m hfit hp hnode hplaced hattempt

theorem placed_clearLengths (s : HostBridgeState) (h : NodesPlaced bridge requests s) :
    NodesPlaced bridge requests (clearLengths s) := by
  intro t ht halloc
  obtain ⟨r, q, x, hr, haligned, hq, hasks, hfits, hgiven⟩ :=
    h t ht ((allocated_clearLengths s t).mp halloc)
  exact ⟨r, q, x, hr, haligned, hq, hasks, hfits, givenAt_clearLengths bridge s t r x hgiven⟩

theorem getProposedResources_eq (s : HostBridgeState) :
    hostBridgeGetProposedResources bridge true true bridge.controller true s =
      .ok ⟨resourceTypes.filterMap (proposedDescriptor bridge s), ACPI_END_TAG_DESCRIPTOR⟩ := by
  simp [hostBridgeGetProposedResources]

theorem notifyPhase_requestedState (gcd : Gcd)
    (free : PciResourceType → GcdSpace → Span → Bool) (leftover : EfiStatus) :
    hostBridgeNotifyPhase bridge free leftover true .allocateResources
        (requestedState requests gcd) =
      (attempts bridge free (requestSelections requests)
        (.ok (), requestedState requests gcd)).map fun (status, s) => (status, clearLengths s) :=
  allocateResourcesPhase_eq bridge free (requestedState requests gcd)
    (blank_requestNodes requests) rfl

theorem proposedRight_of_searchesFit (hfit : SearchesFit bridge requests) :
    ProposedRight bridge requests := by
  intro gcd free leftover
  have hnone : NodesPlaced bridge requests (requestedState requests gcd) := by
    intro t _ halloc
    have hstatus : (requestNodes requests t).status = .allocated := halloc
    rw [requestNodes] at hstatus
    cases hr : requests t <;> rw [hr] at hstatus <;> contradiction
  obtain ⟨⟨status, s⟩, hattempts, hplaced⟩ :=
    placed_attempts bridge requests free (requestSelections requests)
    (.ok (), requestedState requests gcd) hfit
    (nodup_phaseSelections (requestedState requests gcd)) (fun _ hp => hp) (fun _ _ => rfl) hnone
  refine ⟨status, clearLengths s, ?_, ?_⟩
  · rw [notifyPhase_requestedState, hattempts]
    rfl
  · intro configuration hconfiguration d hd hsatisfied
    rw [getProposedResources_eq] at hconfiguration
    rw [← Except.ok.inj hconfiguration] at hd
    obtain ⟨t, ht, hdt⟩ := List.mem_filterMap.mp hd
    have halloc := allocated_of_satisfied bridge (clearLengths s) t d hdt hsatisfied
    obtain ⟨r, q, x, hr, haligned, hq, hasks, hfits, hgiven⟩ :=
      placed_clearLengths bridge requests s hplaced t ht halloc
    have halignment : (requestNodes requests t).alignment = r.alignment := by
      rw [requestNodes_of_some requests t r hr]
    exact (descriptorRight_iff bridge requests (clearLengths s) t ht _ r hr halignment haligned q hq
      x hasks hgiven d hdt).mpr hfits

end Sufficient

/-! A phase that is always right searches only where requests fit. -/

section Necessary

variable (bridge : PciHostBridge) (requests : PciResourceType → Option ResRequest)

theorem not_grantable_of_refused (free : GcdSpace → Span → Bool)
    (hrefused : ∀ space span, free space span = false) (space : GcdSpace) (length x : U64)
    (gcd : Gcd) : ¬ Grantable free space length x gcd := by
  intro h
  rw [Grantable, hrefused] at h
  exact absurd h.1 Bool.false_ne_true

/-- A refused attempt that returns leaves the state as it was, and all its searches end. -/
theorem attemptNode_refused (free : GcdSpace → Span → Bool)
    (hrefused : ∀ space span, free space span = false) (t : PciResourceType)
    (r : EfiStatus × HostBridgeState) (h : attemptNode bridge free t r ≠ none) :
    (∃ status, attemptNode bridge free t r = some (status, r.2)) ∧
      (TranslationAligned bridge t (r.2.nodes t) →
        ∀ q ∈ searches bridge (r.2.nodes t) t, q.Ends (r.2.nodes t).length) := by
  by_cases haligned : TranslationAligned bridge t (r.2.nodes t)
  · obtain ⟨status, s⟩ := r
    have hnot (y : U64) := not_grantable_of_refused free hrefused t.space (s.nodes t).length y s.gcd
    rw [attemptNode_eq bridge free t status s haligned] at h ⊢
    rw [ne_eq, Option.map_eq_none_iff] at h
    have hends := ends_of_runSearches free t.space _ _ s.gcd hnot h
    refine ⟨⟨.error .outOfResources, ?_⟩, fun _ => hends⟩
    rw [attemptSearches, runSearches_of_refused free t.space _ _ s.gcd hends hnot, Option.map_some]
    dsimp only
    rw [if_neg fun hboth => hboth.1 rfl]
  · refine ⟨⟨_, attemptNode_of_not_aligned bridge free t r haligned⟩, fun h => absurd h haligned⟩

theorem attempts_refused (free : PciResourceType → GcdSpace → Span → Bool)
    (l : List (PciResourceType × PciResourceType)) (r : EfiStatus × HostBridgeState)
    (hrefused : ∀ p ∈ l, ∀ space span, free p.1 space span = false)
    (h : attempts bridge free l r ≠ none) :
    (∃ status, attempts bridge free l r = some (status, r.2)) ∧
      ∀ p ∈ l, TranslationAligned bridge p.2 (r.2.nodes p.2) →
        ∀ q ∈ searches bridge (r.2.nodes p.2) p.2, q.Ends (r.2.nodes p.2).length := by
  induction l generalizing r with
  | nil => exact ⟨⟨r.1, rfl⟩, List.forall_mem_nil _⟩
  | cons p rest ih =>
      rw [attempts_cons] at h ⊢
      have hfirst : attemptNode bridge (free p.1) p.2 r ≠ none := by
        intro hnone
        rw [hnone] at h
        exact h rfl
      obtain ⟨⟨status, hattempt⟩, hends⟩ := attemptNode_refused bridge (free p.1)
        (hrefused p List.mem_cons_self) p.2 r hfirst
      rw [hattempt, Option.bind_some] at h ⊢
      obtain ⟨hrest, hendsRest⟩ := ih (status, r.2)
        (fun q hq => hrefused q (List.mem_cons_of_mem p hq)) h
      exact ⟨hrest, List.forall_mem_cons.mpr ⟨hends, hendsRest⟩⟩

theorem ends_of_proposedRight (h : ProposedRight bridge requests) :
    ∀ p ∈ requestSelections requests,
      TranslationAligned bridge p.2 (requestNodes requests p.2) →
      ∀ q ∈ searches bridge (requestNodes requests p.2) p.2,
        q.Ends (requestNodes requests p.2).length := by
  obtain ⟨status, s, hphase, -⟩ :=
    h (fun _ => HeldSpans.empty _) (fun _ _ _ => false) (.ok ())
  rw [notifyPhase_requestedState, Option.map_eq_some_iff] at hphase
  obtain ⟨r, hattempts, -⟩ := hphase
  exact (attempts_refused bridge (fun _ _ _ => false) _ _ (fun _ _ _ _ => rfl)
    (by rw [hattempts]; exact Option.some_ne_none r)).2

theorem givenAt_attempts (free : PciResourceType → GcdSpace → Span → Bool)
    (l : List (PciResourceType × PciResourceType)) (r r' : EfiStatus × HostBridgeState)
    (t : PciResourceType) (request : ResRequest) (x : U64) (ht : t ∉ l.map Prod.snd)
    (hgiven : GivenAt bridge r.2 t request x) (h : attempts bridge free l r = some r') :
    GivenAt bridge r'.2 t request x := by
  induction l generalizing r with
  | nil =>
      rw [attempts_nil] at h
      rwa [← Option.some.inj h]
  | cons p rest ih =>
      rw [attempts_cons, Option.bind_eq_some_iff] at h
      obtain ⟨m, hattempt, hrest⟩ := h
      rw [List.map_cons, List.mem_cons, not_or] at ht
      have hframe := attemptFrame bridge p.2 (free p.1) r m hattempt
      exact ih m ht.2 (givenAt_mono bridge r.2 t m.2 request x hgiven
        (hframe.others t ht.1) hframe.held) hrest

/-- The GCD grants one region only, while one value of `Index1` is handled. -/
def onlyRegion (index1 : PciResourceType) (region : Span) :
    PciResourceType → GcdSpace → Span → Bool :=
  fun i _ span => i = index1 ∧ span = region

theorem gcdRegion_inj (x y length : U64) (h : gcdRegion x length = gcdRegion y length) : x = y :=
  BitVec.eq_of_toNat_eq (congrArg Span.base h)

/-- When only the region at an address asked for is granted, it is given to the node. -/
theorem attemptNode_only (p : PciResourceType × PciResourceType) (status : EfiStatus)
    (r : ResRequest) (hr : requests p.2 = some r)
    (haligned : TranslationAligned bridge p.2 (requestNodes requests p.2))
    (hends : ∀ q ∈ searches bridge (requestNodes requests p.2) p.2,
      q.Ends (requestNodes requests p.2).length)
    (q : ApertureSearch) (hq : q ∈ searches bridge (requestNodes requests p.2) p.2) (x : U64)
    (hasks : q.Asks r.length x) (hrecordable : Recordable bridge p.2 r.length x) :
    ∃ r', attemptNode bridge (onlyRegion p.1 (gcdRegion x r.length) p.1) p.2
        (status, requestedState requests fun _ => HeldSpans.empty _) = some r' ∧
      GivenAt bridge r'.2 p.2 r x := by
  have hlength : (requestNodes requests p.2).length = r.length := by
    rw [requestNodes_of_some requests p.2 r hr]
  obtain ⟨hbounds, hx, hhost⟩ := hrecordable
  have hgrantable : Grantable (onlyRegion p.1 (gcdRegion x r.length) p.1) p.2.space r.length x
      (fun _ => HeldSpans.empty _) :=
    ⟨decide_eq_true ⟨rfl, rfl⟩, hbounds, List.forall_mem_nil _⟩
  obtain ⟨g, hgranted⟩ := Option.ne_none_iff_exists'.mp
    (mt (gcdAllocate_eq_none_iff _ p.2.space r.length x _).mp (not_not.mpr hgrantable))
  have honly (y : U64) (hy : y ≠ x) : ¬ Grantable (onlyRegion p.1 (gcdRegion x r.length) p.1)
      p.2.space r.length y (fun _ => HeldSpans.empty _) := fun hg =>
    hy (gcdRegion_inj y x r.length (of_decide_eq_true hg.1).2)
  have hsearch : attemptSearches bridge (onlyRegion p.1 (gcdRegion x r.length) p.1) p.2
      (requestedState requests fun _ => HeldSpans.empty _) = some (x, g) := by
    rw [hlength] at hends
    have hfound := runSearches_of_only _ p.2.space r.length _ _ g x hends hx ⟨q, hq, hasks⟩
      hgranted honly
    rw [← hlength] at hfound
    rw [attemptSearches, ← hlength]
    exact hfound
  refine ⟨(status, (requestedState requests fun _ => HeldSpans.empty _).grant bridge p.2 x g), ?_,
    givenAt_grant bridge requests _ p.2 _ r x _ g rfl hr hgranted⟩
  rw [attemptNode_eq _ _ _ _ _ haligned, hsearch, Option.map_some]
  dsimp only
  rw [if_pos ⟨hx, hhost⟩]

/-- When only the region at an address asked for is granted, the phase places the node there. -/
theorem phase_only (p : PciResourceType × PciResourceType)
    (hp : p ∈ requestSelections requests) (r : ResRequest) (hr : requests p.2 = some r)
    (haligned : TranslationAligned bridge p.2 (requestNodes requests p.2))
    (hends : ∀ q ∈ searches bridge (requestNodes requests p.2) p.2,
      q.Ends (requestNodes requests p.2).length)
    (q : ApertureSearch) (hq : q ∈ searches bridge (requestNodes requests p.2) p.2) (x : U64)
    (hasks : q.Asks r.length x) (hrecordable : Recordable bridge p.2 r.length x)
    (r' : EfiStatus × HostBridgeState)
    (hattempts : attempts bridge (onlyRegion p.1 (gcdRegion x r.length))
      (requestSelections requests)
      (.ok (), requestedState requests fun _ => HeldSpans.empty _) = some r') :
    GivenAt bridge r'.2 p.2 r x := by
  have hfst : ((requestSelections requests).map Prod.fst).Nodup :=
    (selections_sublist _ _ _).nodup (by decide)
  have hsnd : ((requestSelections requests).map Prod.snd).Nodup :=
    (selections_unhandled _ _ _).2
  obtain ⟨before, after, hsplit⟩ := List.append_of_mem hp
  rw [hsplit, List.map_append, List.map_cons] at hfst hsnd
  rw [hsplit, attempts_append, Option.bind_eq_some_iff] at hattempts
  obtain ⟨m, hbefore, hrest⟩ := hattempts
  rw [attempts_cons, Option.bind_eq_some_iff] at hrest
  obtain ⟨m', hattempt, hafter⟩ := hrest
  have hrefused : ∀ p' ∈ before, ∀ space span,
      onlyRegion p.1 (gcdRegion x r.length) p'.1 space span = false := by
    intro p' hp' space span
    have hne : p'.1 ≠ p.1 := fun heq =>
      (List.nodup_append.mp hfst).2.2 p'.1 (List.mem_map_of_mem hp') p.1 List.mem_cons_self heq
    exact decide_eq_false fun h => hne h.1
  obtain ⟨⟨status, hstart⟩, -⟩ := attempts_refused bridge _ before _ hrefused
    (by rw [hbefore]; exact Option.some_ne_none m)
  rw [hbefore] at hstart
  rw [Option.some.inj hstart] at hattempt
  obtain ⟨m'', hattempt', hgiven⟩ := attemptNode_only bridge requests p status r hr haligned hends q
    hq x hasks hrecordable
  rw [hattempt] at hattempt'
  rw [← Option.some.inj hattempt'] at hgiven
  have hlater : p.2 ∉ after.map Prod.snd :=
    (List.nodup_cons.mp (List.nodup_append.mp hsnd).2.1).1
  exact givenAt_attempts bridge _ after m' r' p.2 r x hlater hgiven hafter

theorem searchesFit_of_proposedRight (h : ProposedRight bridge requests) :
    SearchesFit bridge requests := by
  have hends := ends_of_proposedRight bridge requests h
  intro p hp haligned q hq
  refine ⟨hends p hp haligned q hq, fun r hr x hasks hrecordable => ?_⟩
  obtain ⟨status, s, hphase, hright⟩ := h (fun _ => HeldSpans.empty _)
    (onlyRegion p.1 (gcdRegion x r.length)) (.ok ())
  rw [notifyPhase_requestedState, Option.map_eq_some_iff] at hphase
  obtain ⟨⟨status', s'⟩, hattempts, hs⟩ := hphase
  obtain ⟨-, rfl⟩ := Prod.mk.inj hs
  have hgiven := givenAt_clearLengths bridge s' p.2 r x
    (phase_only bridge requests p hp r hr haligned (hends p hp haligned) q hq x hasks hrecordable
      (status', s') hattempts)
  have ht : p.2 ∈ resourceTypes := ((selections_unhandled _ resourceTypes _).1 p hp).2.2
  have halloc : (clearLengths s').Allocated p.2 := by rw [HostBridgeState.Allocated, hgiven.1]
  obtain ⟨d, hd⟩ := exists_proposed bridge (clearLengths s') p.2 halloc
  have hsatisfied := (proposed_of_allocated bridge (clearLengths s') p.2 halloc d hd).2.2.1
  have hdright := hright _ (getProposedResources_eq bridge (clearLengths s')) d
    (List.mem_filterMap.mpr ⟨p.2, ht, hd⟩) hsatisfied
  have halignment : (requestNodes requests p.2).alignment = r.alignment := by
    rw [requestNodes_of_some requests p.2 r hr]
  exact (descriptorRight_iff bridge requests (clearLengths s') p.2 ht _ r hr halignment haligned q
    hq x hasks hgiven d hd).mp hdright

end Necessary

/-- The resources proposed are those allocated, whatever the GCD grants, if and only if every
search of an attempted request ends and asks only for addresses where the request fits. -/
theorem proposed_right_iff (bridge : PciHostBridge)
    (requests : PciResourceType → Option ResRequest) :
    ProposedRight bridge requests ↔ SearchesFit bridge requests :=
  ⟨searchesFit_of_proposedRight bridge requests, proposedRight_of_searchesFit bridge requests⟩

/-! A root bridge without memory above 4 GB, whose memory below is moved by 256 MB. -/

def noRange : DtRange := ⟨0, 0, 0, 0, none⟩

def fallbackBridge : PciHostBridge where
  toPciRootBridge :=
    { uniformBridge noRange with
      memRange := ⟨0x10000000, 0x20000000, 0x20000000, 0x1000000, none⟩ }
  controller := 1
  allocationAttributes := 0

def fallbackRequests : PciResourceType → Option ResRequest
  | .mem64 => some ⟨0x1000, 0xfff, 12, by decide, rfl⟩
  | _ => none

/-- The host address is reported as the device address. -/
theorem fallback_reported_untranslated : ¬ ProposedRight fallbackBridge fallbackRequests := by
  intro h
  obtain ⟨status, s, hphase, hright⟩ :=
    h (fun _ => HeldSpans.empty _) (fun _ _ _ => true) (.ok ())
  have hdescriptors : (hostBridgeNotifyPhase fallbackBridge (fun _ _ _ => true) (.ok ()) true
      .allocateResources (requestedState fallbackRequests fun _ => HeldSpans.empty _)).map
        (fun r => resourceTypes.filterMap (proposedDescriptor fallbackBridge r.2)) =
      some [⟨0, 0, 64, 0x20000000, 0, 0, 0x1000⟩] := by decide
  rw [hphase] at hdescriptors
  have hlist := Option.some.inj hdescriptors
  have hinside := (hright _ (getProposedResources_eq fallbackBridge s)
    ⟨0, 0, 64, 0x20000000, 0, 0, 0x1000⟩ (by dsimp only at hlist ⊢; rw [hlist]; decide) rfl).inside
  obtain ⟨range, hrange, -, hwithin, -⟩ := hinside
  have hnone : ∀ range ∈ apertures fallbackBridge .mem64,
      ¬ Span.Within (gcdRegion 0x20000000 0x1000) (rangeSpan range) := by decide
  exact hnone range hrange hwithin

end FdtBusPkg
