import FdtBusPkg.Library.FirstMatch
import FdtBusPkg.Library.LastWrite
import FdtBusPkg.Library.Align
import FdtBusPkg.Pci.DtInit

/-!
Submitted resources. The check pass lets bus descriptors through, since an assertion
that release builds leave out is all that stands against them, and the record pass takes
whatever is not memory for I/O.
-/
namespace FdtBusPkg

namespace AcpiDescriptor

variable (d : AcpiDescriptor)

/-- The type of node for the resource that the descriptor describes. -/
def describes : Option PciResourceType :=
  if d.resType = ACPI_ADDRESS_SPACE_TYPE_MEM then
    if d.addrSpaceGranularity = 32 then some (if d.prefetchable then .pMem32 else .mem32)
    else if d.addrSpaceGranularity = 64 then some (if d.prefetchable then .pMem64 else .mem64)
    else none
  else if d.resType = ACPI_ADDRESS_SPACE_TYPE_IO then some .io
  else if d.resType = ACPI_ADDRESS_SPACE_TYPE_BUS then some .bus
  else none

/-- The alignment is of the form `2 ^ n - 1`. -/
def Aligned : Prop := ∃ n ≤ 64, d.addrRangeMax.toNat + 1 = 2 ^ n

/-- A memory or I/O resource with a supported granularity and flags and an alignment. -/
def Supported (bridge : PciHostBridge) : Prop :=
  ((d.resType = ACPI_ADDRESS_SPACE_TYPE_MEM ∧
      (d.addrSpaceGranularity = 32 ∨ d.addrSpaceGranularity = 64) ∧
      (d.addrSpaceGranularity = 32 → d.addrLen < SIZE_4GB) ∧
      ¬ (bridge.allocationAttributes &&& EFI_PCI_HOST_BRIDGE_COMBINE_MEM_PMEM ≠ 0 ∧
        d.prefetchable = true)) ∨
    d.resType = ACPI_ADDRESS_SPACE_TYPE_IO) ∧ d.Aligned

end AcpiDescriptor

/-- A call of `SubmitResources`. -/
structure SubmitRequest where
  this : Bool
  rootBridgeHandle : EfiHandle
  configuration : Option AcpiConfiguration
  state : HostBridgeState

/-- Every resource of the list is recorded in the node of its type, the last one of a
type winning, and no other node changes. -/
structure Recorded (l : List AcpiDescriptor) (s s' : HostBridgeState) : Prop where
  nodes : ∀ t, s'.nodes t =
    match l.reverse.find? (fun d => d.describes = some t) with
    | some d => { s.nodes t with
        length := d.addrLen, alignment := d.addrRangeMax, status := .submitted }
    | none => s.nodes t
  resourceSubmitted : s'.resourceSubmitted = true
  canRestart : s'.canRestart = s.canRestart
  gcd : s'.gcd = s.gcd

/-- A request to this root bridge with a list of supported resources and an end tag. -/
def Acceptable (bridge : PciHostBridge) (q : SubmitRequest) : Prop :=
  q.this = true ∧ bridge.controller = q.rootBridgeHandle ∧
    ∃ l, q.configuration = some ⟨l, ACPI_END_TAG_DESCRIPTOR⟩ ∧ ∀ d ∈ l, d.Supported bridge

/-- Success means a list of supported resources, ended by an end tag and recorded under
the types they describe; an error is for anything else, and leaves the state as it was. -/
def AllOrNothing (bridge : PciHostBridge) (q : SubmitRequest) : Prop :=
  match hostBridgeSubmitResources bridge q.this q.rootBridgeHandle q.configuration q.state with
  | (.ok (), s) => ∃ l, q.configuration = some ⟨l, ACPI_END_TAG_DESCRIPTOR⟩ ∧
      (∀ d ∈ l, d.Supported bridge ∧ d.describes = some d.nodeType) ∧ Recorded l q.state s
  | (.error _, s) => ¬ Acceptable bridge q ∧ s = q.state

/-- The request has a bus descriptor and nothing else that is refused. -/
def BusAmongSupported (bridge : PciHostBridge) (q : SubmitRequest) : Prop :=
  q.this = true ∧ bridge.controller = q.rootBridgeHandle ∧
    ∃ l, q.configuration = some ⟨l, ACPI_END_TAG_DESCRIPTOR⟩ ∧
      (∀ d ∈ l, d.resType = ACPI_ADDRESS_SPACE_TYPE_BUS ∨ d.Supported bridge) ∧
      ∃ d ∈ l, d.resType = ACPI_ADDRESS_SPACE_TYPE_BUS

section Check

variable (bridge : PciHostBridge) (d : AcpiDescriptor)

theorem getPowerOfTwo64_eq_iff :
    getPowerOfTwo64 (d.addrRangeMax + 1) = d.addrRangeMax + 1 ↔ d.Aligned := by
  have hlt := d.addrRangeMax.isLt
  have hone : (1 : U64).toNat = 1 := rfl
  have hsum : (d.addrRangeMax + 1).toNat = (d.addrRangeMax.toNat + 1) % 2 ^ 64 := by
    rw [BitVec.toNat_add, hone]
  rw [getPowerOfTwo64, AcpiDescriptor.Aligned]
  split
  · next hzero =>
      rw [hzero] at hsum ⊢
      have hmod : (d.addrRangeMax.toNat + 1) % 2 ^ 64 = 0 := hsum.symm
      exact iff_of_true rfl ⟨64, Nat.le_refl 64, by omega⟩
  · next hne =>
      have hnat : (d.addrRangeMax + 1).toNat ≠ 0 := fun h => hne (BitVec.eq_of_toNat_eq h)
      have hfits : (d.addrRangeMax + 1).toNat = d.addrRangeMax.toNat + 1 := by omega
      have hlog : Nat.log2 (d.addrRangeMax + 1).toNat < 64 :=
        (Nat.log2_lt hnat).mpr (d.addrRangeMax + 1).isLt
      rw [← BitVec.toNat_inj, BitVec.toNat_twoPow, hfits] at *
      rw [Nat.mod_eq_of_lt (Nat.pow_lt_pow_right (by decide) hlog)]
      constructor
      · intro h
        exact ⟨_, hlog.le, h.symm⟩
      · rintro ⟨n, -, hn⟩
        rw [hn, Nat.log2_two_pow]

theorem checkAlignment_ok_iff :
    (if getPowerOfTwo64 (d.addrRangeMax + 1) ≠ d.addrRangeMax + 1 then
        (.error .invalidParameter : EfiStatus) else .ok ()) = .ok () ↔ d.Aligned := by
  rw [← getPowerOfTwo64_eq_iff]
  split
  · next h => exact iff_of_false (by simp) h
  · next h => exact iff_of_true rfl (not_not.mp h)

theorem checkDescriptor_ok_iff :
    checkDescriptor bridge d = .ok () ↔
      d.resType = ACPI_ADDRESS_SPACE_TYPE_BUS ∨ d.Supported bridge := by
  have htypes : ACPI_ADDRESS_SPACE_TYPE_IO ≠ ACPI_ADDRESS_SPACE_TYPE_MEM ∧
      ACPI_ADDRESS_SPACE_TYPE_BUS ≠ ACPI_ADDRESS_SPACE_TYPE_MEM ∧
      ACPI_ADDRESS_SPACE_TYPE_BUS ≠ ACPI_ADDRESS_SPACE_TYPE_IO := by decide
  have halignment := checkAlignment_ok_iff d
  rw [checkDescriptor, AcpiDescriptor.Supported]
  by_cases hmem : d.resType = ACPI_ADDRESS_SPACE_TYPE_MEM
  · have hrange : ¬ ACPI_ADDRESS_SPACE_TYPE_MEM > ACPI_ADDRESS_SPACE_TYPE_BUS := by decide
    rw [hmem, if_neg hrange, if_pos rfl]
    simp only [htypes.2.1.symm, htypes.1.symm, or_false, false_or, true_and]
    split
    · next hgranularity =>
        refine iff_of_false (by simp) fun h => ?_
        exact h.1.1.elim hgranularity.1 hgranularity.2
    · next hgranularity =>
        have hsupported : d.addrSpaceGranularity = 32 ∨ d.addrSpaceGranularity = 64 := by
          by_contra hnot
          exact hgranularity (not_or.mp hnot)
        split
        · next hlength =>
            refine iff_of_false (by simp) fun h => ?_
            exact absurd (h.1.2.1 hlength.1) (BitVec.not_lt.mpr hlength.2)
        · next hlength =>
            have hbelow : d.addrSpaceGranularity = 32 → d.addrLen < SIZE_4GB := fun h32 =>
              BitVec.not_le.mp fun hge => hlength ⟨h32, hge⟩
            split
            · next hcombined => exact iff_of_false (by simp) fun h => h.1.2.2 hcombined
            · next hcombined =>
                rw [halignment]
                exact (and_iff_right ⟨hsupported, hbelow, hcombined⟩).symm
  · by_cases hio : d.resType = ACPI_ADDRESS_SPACE_TYPE_IO
    · have hrange : ¬ ACPI_ADDRESS_SPACE_TYPE_IO > ACPI_ADDRESS_SPACE_TYPE_BUS := by decide
      rw [hio, if_neg hrange, if_neg htypes.1, if_pos rfl, halignment]
      simp only [htypes.2.2.symm, false_or, or_true, true_and]
    · simp only [hmem, hio, if_false, false_and, or_self, or_false]
      by_cases hbus : d.resType = ACPI_ADDRESS_SPACE_TYPE_BUS
      · have hrange : ¬ ACPI_ADDRESS_SPACE_TYPE_BUS > ACPI_ADDRESS_SPACE_TYPE_BUS := by decide
        rw [hbus, if_neg hrange]
        exact iff_of_true rfl rfl
      · have hrange : d.resType > ACPI_ADDRESS_SPACE_TYPE_BUS := by
          have hmem' : d.resType.toNat ≠ 0 := fun h => hmem (BitVec.eq_of_toNat_eq h)
          have hio' : d.resType.toNat ≠ 1 := fun h => hio (BitVec.eq_of_toNat_eq h)
          have hbus' : d.resType.toNat ≠ 2 := fun h => hbus (BitVec.eq_of_toNat_eq h)
          have htwo : ACPI_ADDRESS_SPACE_TYPE_BUS.toNat = 2 := rfl
          rw [gt_iff_lt, BitVec.lt_def, htwo]
          omega
        rw [if_pos hrange]
        exact iff_of_false (by simp) hbus

theorem describes_of_supported (h : d.Supported bridge) : d.describes = some d.nodeType := by
  rw [AcpiDescriptor.describes, AcpiDescriptor.nodeType]
  rcases h.1 with ⟨hmem, hgranularity, -⟩ | hio
  · rw [if_pos hmem, if_pos hmem]
    rcases hgranularity with h32 | h64
    · rw [if_pos h32, if_pos h32]
    · have hne : d.addrSpaceGranularity ≠ 32 := by
        rw [h64]
        decide
      rw [if_neg hne, if_pos h64, if_neg hne]
  · have hne : d.resType ≠ ACPI_ADDRESS_SPACE_TYPE_MEM := by
      rw [hio]
      decide
    rw [if_neg hne, if_pos hio, if_neg hne]

theorem not_supported_of_bus (h : d.resType = ACPI_ADDRESS_SPACE_TYPE_BUS) :
    ¬ d.Supported bridge := by
  rintro ⟨⟨hmem, -⟩ | hio, -⟩
  · rw [h] at hmem
    exact absurd hmem (by decide)
  · rw [h] at hio
    exact absurd hio (by decide)

end Check

section Record

theorem recordDescriptor_nodes (s : HostBridgeState) (d : AcpiDescriptor)
    (t : PciResourceType) :
    (recordDescriptor s d).nodes t =
      if d.nodeType = t then
        { s.nodes t with
          length := d.addrLen, alignment := d.addrRangeMax, status := .submitted }
      else s.nodes t := by
  change Function.update s.nodes d.nodeType _ t = _
  by_cases ht : d.nodeType = t
  · rw [if_pos ht, ← ht, Function.update_self]
  · rw [if_neg ht, Function.update_of_ne (Ne.symm ht)]

theorem nodes_foldl_recordDescriptor (l : List AcpiDescriptor) (s : HostBridgeState)
    (t : PciResourceType) :
    (l.foldl recordDescriptor s).nodes t =
      match l.reverse.find? (fun d => d.nodeType = t) with
      | some d => { s.nodes t with
          length := d.addrLen, alignment := d.addrRangeMax, status := .submitted }
      | none => s.nodes t := by
  have hbase : ∀ s' d, (s'.nodes t).base = (s.nodes t).base →
      ((recordDescriptor s' d).nodes t).base = (s.nodes t).base := by
    intro s' d h
    rw [recordDescriptor_nodes]
    split
    · exact h
    · exact h
  have hrun := LastWrite.read_foldl recordDescriptor
    (fun s' => (s'.nodes t).base = (s.nodes t).base) (·.nodes t) (fun d => d.nodeType = t)
    (fun d => { s.nodes t with
      length := d.addrLen, alignment := d.addrRangeMax, status := .submitted })
    hbase
    (fun s' d h => by simp only [recordDescriptor_nodes, h, decide_eq_true_eq])
    l s rfl
  rw [hrun]
  cases l.reverse.find? (fun d => d.nodeType = t) <;> rfl

theorem recorded_of_supported (l : List AcpiDescriptor) (s : HostBridgeState)
    (h : ∀ d ∈ l, d.describes = some d.nodeType) :
    Recorded l s { l.foldl recordDescriptor s with resourceSubmitted := true } where
  nodes := fun t => by
    have hsame : l.reverse.find? (fun d => d.describes = some t) =
        l.reverse.find? (fun d => d.nodeType = t) := by
      apply FirstMatch.find?_congr
      intro d hd
      rw [h d (List.mem_reverse.mp (FirstMatch.mem_of_mem_examined _ _ d hd))]
      simp
    rw [hsame]
    exact nodes_foldl_recordDescriptor l s t
  resourceSubmitted := rfl
  canRestart := LastWrite.invariant_foldl recordDescriptor (·.canRestart = s.canRestart)
    (fun _ _ h => h) l s rfl
  gcd := LastWrite.invariant_foldl recordDescriptor (·.gcd = s.gcd) (fun _ _ h => h) l s rfl

end Record

section Submit

variable (bridge : PciHostBridge) (q : SubmitRequest)

theorem forM_ok_iff (check : AcpiDescriptor → EfiStatus) (l : List AcpiDescriptor) :
    l.forM check = .ok () ↔ ∀ d ∈ l, check d = .ok () := by
  induction l with
  | nil => exact iff_of_true rfl (List.forall_mem_nil _)
  | cons d l ih =>
      rw [List.forall_mem_cons]
      change (check d >>= fun _ => l.forM check) = .ok () ↔ _
      cases hd : check d with
      | error e => exact iff_of_false (by simp [bind, Except.bind]) (by simp)
      | ok u => exact ih.trans (by simp)

/-- The checks that a request with the descriptors `l` passes. -/
def AcceptsList (l : List AcpiDescriptor) : Prop :=
  q.this = true ∧ q.configuration = some ⟨l, ACPI_END_TAG_DESCRIPTOR⟩ ∧
    bridge.controller = q.rootBridgeHandle ∧
    ∀ d ∈ l, d.resType = ACPI_ADDRESS_SPACE_TYPE_BUS ∨ d.Supported bridge

theorem submitResources_of_accepts (l : List AcpiDescriptor) (h : AcceptsList bridge q l) :
    hostBridgeSubmitResources bridge q.this q.rootBridgeHandle q.configuration q.state =
      (.ok (), { l.foldl recordDescriptor q.state with resourceSubmitted := true }) := by
  obtain ⟨hthis, hconfiguration, hhandle, hall⟩ := h
  have hcheck : l.forM (checkDescriptor bridge) = .ok () :=
    (forM_ok_iff _ l).mpr fun d hd => (checkDescriptor_ok_iff bridge d).mpr (hall d hd)
  rw [hthis, hconfiguration]
  simp only [hostBridgeSubmitResources]
  rw [if_neg (not_not.mpr hhandle), hcheck]
  rfl

theorem submitResources_of_not_accepts (h : ∀ l, ¬ AcceptsList bridge q l) :
    ∃ e, hostBridgeSubmitResources bridge q.this q.rootBridgeHandle q.configuration q.state =
      (.error e, q.state) := by
  rw [hostBridgeSubmitResources.eq_def]
  split
  · next configuration hthis hconfiguration =>
      split
      · exact ⟨_, rfl⟩
      · next hhandle =>
          split
          · exact ⟨_, rfl⟩
          · next hcheck =>
              split
              · exact ⟨_, rfl⟩
              · next hend =>
                  refine absurd ⟨hthis, ?_, not_not.mp hhandle, fun d hd => ?_⟩
                    (h configuration.descriptors)
                  · rw [hconfiguration, ← not_not.mp hend]
                  · exact (checkDescriptor_ok_iff bridge d).mp
                      ((forM_ok_iff _ _).mp hcheck d hd)
  · exact ⟨_, rfl⟩

end Submit

/-- Submitting is all or nothing if and only if it is not a bus descriptor alone that the
request should be refused for. -/
theorem allOrNothing_iff (bridge : PciHostBridge) (q : SubmitRequest) :
    AllOrNothing bridge q ↔ ¬ BusAmongSupported bridge q := by
  constructor
  · rintro hexact ⟨hthis, hhandle, l, hconfiguration, hall, d, hd, hbus⟩
    rw [AllOrNothing, submitResources_of_accepts bridge q l
      ⟨hthis, hconfiguration, hhandle, hall⟩] at hexact
    obtain ⟨l', hconfiguration', hsupported, -⟩ := hexact
    have hsame : l' = l := by
      rw [hconfiguration] at hconfiguration'
      exact congrArg AcpiConfiguration.descriptors (Option.some.inj hconfiguration'.symm)
    rw [hsame] at hsupported
    exact not_supported_of_bus bridge d hbus (hsupported d hd).1
  · intro hbus
    by_cases haccepts : ∃ l, AcceptsList bridge q l
    · obtain ⟨l, haccepts⟩ := haccepts
      obtain ⟨hthis, hconfiguration, hhandle, hall⟩ := haccepts
      have hsupported : ∀ d ∈ l, d.Supported bridge := fun d hd =>
        (hall d hd).resolve_left fun h =>
          hbus ⟨hthis, hhandle, l, hconfiguration, hall, d, hd, h⟩
      have hdescribes : ∀ d ∈ l, d.describes = some d.nodeType := fun d hd =>
        describes_of_supported bridge d (hsupported d hd)
      rw [AllOrNothing, submitResources_of_accepts bridge q l
        ⟨hthis, hconfiguration, hhandle, hall⟩]
      exact ⟨l, hconfiguration, fun d hd => ⟨hsupported d hd, hdescribes d hd⟩,
        recorded_of_supported l q.state hdescribes⟩
    · obtain ⟨e, heq⟩ := submitResources_of_not_accepts bridge q (not_exists.mp haccepts)
      rw [AllOrNothing, heq]
      refine ⟨?_, rfl⟩
      rintro ⟨hthis, hhandle, l, hconfiguration, hsupported⟩
      exact haccepts ⟨l, hthis, hconfiguration, hhandle, fun d hd => Or.inr (hsupported d hd)⟩

def busDescriptorAlone : SubmitRequest where
  this := true
  rootBridgeHandle := 1
  configuration := some ⟨[⟨ACPI_ADDRESS_SPACE_TYPE_BUS, 0, 0, 0, 0, 0, 256⟩],
    ACPI_END_TAG_DESCRIPTOR⟩
  state := hostBridgeInit

/-- It is recorded as a request for 256 bytes of I/O space. -/
theorem busDescriptor_recorded :
    ¬ AllOrNothing (rootBridgeAlloc busesOnlyNode.dtIo 1) busDescriptorAlone := by
  rintro ⟨l, hconfiguration, hsupported, -⟩
  cases hconfiguration
  have hdescribes := (hsupported _ List.mem_cons_self).2
  exact absurd hdescribes (by decide)

end FdtBusPkg
