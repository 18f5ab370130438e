import FdtBusPkg.Library.Session
import FdtBusPkg.DtBus.DmaRuns
import FdtBusPkg.DtBus.DmaBounce

/-!
The mapping interface as its callers see it: any number of devices and the processor, with
requests and accesses in any order. The view has no bounce buffers. A mapping that is not in
place is a window of its own: a copy of the host buffer for reads, zeroed for writes, and
written back whole by Unmap.
-/
namespace FdtBusPkg

/-- A request on the mapping interface, accesses of the processor (or of a device to memory
mapped in place), and accesses of a device through a mapping. -/
inductive DmaCall (ι : Type)
  | map (d : ι) (bs : BootServices) (operation : DmaOperation) (hostAddress : U64)
      (extra : Option DmaExtra) (numberOfBytes : Uintn)
  | unmap (d : ι) (mapping : DmaMapping)
  | allocateBuffer (d : ι) (bs : BootServices) (memoryType : EfiMemoryType) (pages : Uintn)
      (extra : Option DmaExtra)
  | freeBuffer (d : ι) (freePages : EfiStatus) (pages : Uintn) (hostAddress : U64)
  | direct (address : U64) (accesses : List (Access U8))
  | mapped (d : ι) (mapping : DmaMapping) (address : DtBusAddress) (accesses : List (Access U8))

inductive DmaAnswer
  | mapped (result : EfiResult (DtBusAddress × DmaMapping))
  | allocated (result : EfiResult U64)
  | status (status : EfiStatus)
  | observed (bytes : List U8)

structure DmaWindow where
  operation : DmaOperation
  hostAddress : U64
  numberOfBytes : Uintn
  address : DtBusAddress
  contents : Nat → U8

/-- The memory of the callers, the pages that are theirs, and the windows of each device. -/
structure DmaView (ι : Type) where
  memory : Nat → U8
  owned : Set Nat
  windows : ι → DmaMapping → Option DmaWindow

def pageSpan (base : U64) (pages : Uintn) : Set Nat :=
  {page | base.toNat / 4096 ≤ page ∧ page < base.toNat / 4096 + pages.toNat}

section Bounce

variable (bs : BootServices) (device : DtDevice) (operation : DmaOperation) (hostAddress : U64)
  (numberOfBytes : Uintn) (s : DmaState)

/-- A mapping request fails, maps in place, or goes through a bounce buffer. -/
theorem dtIoMap_path (extra : Option DmaExtra) (outputs : Bool) :
    (∃ e, dtIoMap bs (some device) operation hostAddress extra (some numberOfBytes) outputs s =
        (.error e, s)) ∨
      dtIoMap bs (some device) operation hostAddress extra (some numberOfBytes) outputs s =
        (.ok (hostAddress.setWidth 128, NO_MAPPING), s) ∨
      ∃ limit, (operation = .busMasterRead ∨ operation = .busMasterWrite) ∧
        dtIoMap bs (some device) operation hostAddress extra (some numberOfBytes) outputs s =
          dtIoMapBounce bs operation hostAddress limit numberOfBytes s := by
  simp only [dtIoMap]
  split
  · exact .inl ⟨_, rfl⟩
  · next hargs =>
    split
    · exact .inl ⟨_, rfl⟩
    · split
      · exact .inl ⟨_, rfl⟩
      · next limit _ _ =>
        split
        · exact .inl ⟨_, rfl⟩
        · split
          · split
            · exact .inl ⟨_, rfl⟩
            · next hcommon =>
              refine .inr (.inr ⟨limit, ?_, rfl⟩)
              cases operation with
              | busMasterRead => exact .inl rfl
              | busMasterWrite => exact .inr rfl
              | busMasterCommonBuffer => exact absurd rfl hcommon
              | maximum => simp at hargs
          · exact .inr (.inl rfl)

/-- The state after a request that made a bounce buffer: memory in use is as it was, and the
buffer holds a copy of the host buffer, or zeros. -/
structure BounceFilled (info : MapInfo) (s' : DmaState) : Prop extends
    BounceMade bs s info s' where
  operation_eq : info.operation = operation
  host_eq : info.hostAddress = hostAddress
  bytes_eq : info.numberOfBytes = numberOfBytes
  covers : ∀ i < numberOfBytes.toNat, info.Covers ((info.mappedHostAddress.toNat + i) / 4096)
  outside : ∀ x, s.pageUsed (x / 4096) = true → s'.memory x = s.memory x
  contents : ∀ i < numberOfBytes.toNat, s'.memory (info.mappedHostAddress.toNat + i) =
    if operation = .busMasterRead then s.memory (hostAddress.toNat + i) else 0

theorem toNat_efiPagesToSize (pages : Uintn) (h : 4096 * pages.toNat < 2 ^ 64) :
    (efiPagesToSize pages).toNat = 4096 * pages.toNat := by
  rw [efiPagesToSize, BitVec.toNat_shiftLeft, Nat.shiftLeft_eq]
  omega

/-- Pages that leave some page of memory in use are not all of memory. -/
theorem pages_lt_of_used (memoryType : EfiMemoryType) (limit base : U64) (pages : Uintn) (x : U64)
    (hpages : bs.allocatePages s memoryType limit pages = .ok base)
    (hx : s.pageUsed (x.toNat / 4096) = true) : 4096 * pages.toNat < 2 ^ 64 := by
  have hbelow := bs.pages_below s _ _ _ base hpages
  by_contra hall
  have hfree := bs.pages_free s _ _ _ base hpages (x.toNat / 4096) (by omega)
  have hpage : base.toNat / 4096 + x.toNat / 4096 = x.toNat / 4096 := by omega
  rw [hpage, hx] at hfree
  exact absurd hfree (by decide)

theorem bounceFilled_of_ok (limit : U64) (address : DtBusAddress) (mapping : DmaMapping)
    (s' : DmaState)
    (hused : ∀ i < numberOfBytes.toNat, s.pageUsed ((hostAddress.toNat + i) / 4096) = true)
    (h : dtIoMapBounce bs operation hostAddress limit numberOfBytes s =
      (.ok (address, mapping), s')) :
    ∃ info, address = info.mappedHostAddress.setWidth 128 ∧ mapping = info.self ∧
      BounceFilled bs operation hostAddress numberOfBytes s info s' := by
  rw [dtIoMapBounce] at h
  cases hpool : bs.allocatePool s with
  | none => simp [hpool] at h
  | some self =>
      rw [hpool] at h
      dsimp only at h
      cases hpages : bs.allocatePages s EfiBootServicesData limit
          (efiSizeToPages numberOfBytes) with
      | error e => simp [hpages] at h
      | ok base =>
          simp only [hpages, Prod.mk.injEq, Except.ok.injEq] at h
          obtain ⟨⟨rfl, rfl⟩, rfl⟩ := h
          have hcover := le_efiSizeToPages numberOfBytes
          have haligned := bs.pages_aligned s _ _ _ base hpages
          have hapart (x : Nat) (hx : s.pageUsed (x / 4096) = true) :=
            apart_of_used bs limit _ base x hpages hx
          have hsize : (efiPagesToSize (efiSizeToPages numberOfBytes)).toNat ≤
              4096 * (efiSizeToPages numberOfBytes).toNat := by
            rw [efiPagesToSize, BitVec.toNat_shiftLeft, Nat.shiftLeft_eq]
            omega
          refine ⟨⟨self, operation, numberOfBytes, efiSizeToPages numberOfBytes, hostAddress,
            base⟩, rfl, rfl, ?_⟩
          exact {
            pool := hpool
            pages := ⟨limit, hpages⟩
            maps_eq := by
              dsimp only
              split <;> rfl
            pageUsed_eq := by
              dsimp only
              split <;> rfl
            operation_eq := rfl
            host_eq := rfl
            bytes_eq := rfl
            covers := by
              intro i hi
              rw [MapInfo.Covers]
              dsimp only
              omega
            outside := by
              intro x hx
              have hfar := hapart x hx
              dsimp only
              split
              · rw [DmaState.memory_copyMem, DmaState.memory_zeroMem,
                  Segment.overlay_outside _ _ _ _ _ (by omega),
                  Segment.overlay_outside _ _ _ _ _ (by omega), DmaState.memory_takePages]
              · rw [DmaState.memory_zeroMem, Segment.overlay_outside _ _ _ _ _ (by omega),
                  DmaState.memory_takePages]
            contents := by
              intro i hi
              have hwhole := toNat_efiPagesToSize _
                (pages_lt_of_used bs s _ limit base _ hostAddress hpages (hused 0 (by omega)))
              have hfar := hapart (hostAddress.toNat + i) (hused i hi)
              dsimp only
              split
              · rw [DmaState.memory_copyMem, Segment.overlay_offset _ _ _ _ _ hi,
                  DmaState.memory_zeroMem, Segment.overlay_outside _ _ _ _ _ (by omega),
                  DmaState.memory_takePages]
              · rw [DmaState.memory_zeroMem, Segment.overlay_offset _ _ _ _ _ (by omega)]
                rfl }

theorem dtIoUnmap_copied (mapping : DmaMapping) (hzero : mapping ≠ 0)
    (hnone : mapping ≠ NO_MAPPING) (hlisted : mapping ∈ s.maps.map (·.self)) :
    ∃ info ∈ s.maps, info.self = mapping ∧
      ∃ s', dtIoUnmap (some device) mapping s = (.ok (), s') ∧ BounceEnded s info s' ∧
        s'.memory =
          if info.operation = .busMasterWrite then
            Segment.overlay s.memory info.hostAddress.toNat info.numberOfBytes.toNat
              (fun i => s.memory (info.mappedHostAddress.toNat + i))
          else
            s.memory := by
  cases hfind : s.maps.find? (fun m => decide (m.self = mapping)) with
  | none =>
      obtain ⟨m, hm, hself⟩ := List.mem_map.mp hlisted
      exact absurd (decide_eq_true hself) (List.find?_eq_none.mp hfind m hm)
  | some info =>
      have hself : info.self = mapping := by simpa using List.find?_some hfind
      refine ⟨info, List.mem_of_find?_eq_some hfind, hself, ?_⟩
      rw [dtIoUnmap, if_neg (by simp [hzero]), if_neg hnone, hfind]
      refine ⟨_, rfl, ⟨?_, ?_⟩, ?_⟩
      · rw [hself]
        split <;> rfl
      · split <;> rfl
      · split <;> rfl

/-- An allocation fails and changes nothing, or takes free pages and clears them. -/
theorem dtIoAllocateBuffer_cases (memoryType : EfiMemoryType) (pages : Uintn)
    (extra : Option DmaExtra) (output : Bool) :
    (∃ e, dtIoAllocateBuffer bs (some device) memoryType pages extra output s = (.error e, s)) ∨
      ∃ limit base, bs.allocatePages s memoryType limit pages = .ok base ∧
        dtIoAllocateBuffer bs (some device) memoryType pages extra output s =
          (.ok base, (s.takePages base pages).zeroMem base (efiPagesToSize pages)) := by
  simp only [dtIoAllocateBuffer]
  split
  · exact .inl ⟨_, rfl⟩
  · split
    · exact .inl ⟨_, rfl⟩
    · split
      · exact .inl ⟨_, rfl⟩
      · split
        · exact .inl ⟨_, rfl⟩
        · next limit _ _ =>
          split
          · exact .inl ⟨_, rfl⟩
          · cases hpages : bs.allocatePages s memoryType limit pages with
            | error e => exact .inl ⟨e, rfl⟩
            | ok base => exact .inr ⟨limit, base, hpages, rfl⟩

end Bounce

section Windows

variable {ι : Type} [DecidableEq ι] (devices : ι → DtDevice)

/-- One call on the system: the answer, and what it leaves. Accesses are by address alone. -/
def DmaSystem.call : DmaCall ι → DmaSystem ι → DmaAnswer × DmaSystem ι
  | .map d bs operation hostAddress extra numberOfBytes, σ =>
    let (result, s) := dtIoMap bs (some (devices d)) operation hostAddress extra
      (some numberOfBytes) true (σ.device d)
    (.mapped result, σ.withDevice d s)
  | .unmap d mapping, σ =>
    let (status, s) := dtIoUnmap (some (devices d)) mapping (σ.device d)
    (.status status, σ.withDevice d s)
  | .allocateBuffer d bs memoryType pages extra, σ =>
    let (result, s) := dtIoAllocateBuffer bs (some (devices d)) memoryType pages extra true
      (σ.device d)
    (.allocated result, σ.withDevice d s)
  | .freeBuffer d freePages pages hostAddress, σ =>
    let (status, s) := dtIoFreeBuffer (some (devices d)) freePages pages hostAddress (σ.device d)
    (.status status, σ.withDevice d s)
  | .direct address accesses, σ =>
    let (memory, bytes) := Access.run address.toNat accesses σ.memory
    (.observed bytes, { σ with memory })
  | .mapped _ _ address accesses, σ =>
    let (memory, bytes) := Access.run address.toNat accesses σ.memory
    (.observed bytes, { σ with memory })

namespace DmaView

variable (v : DmaView ι)

def setWindow (d : ι) (mapping : DmaMapping) (window : Option DmaWindow) : DmaView ι :=
  { v with windows := Function.update v.windows d (Function.update (v.windows d) mapping window) }

/-- The window of a mapping that is not in place. -/
def newWindow (operation : DmaOperation) (hostAddress : U64) (numberOfBytes : Uintn)
    (address : DtBusAddress) : DmaWindow :=
  { operation, hostAddress, numberOfBytes, address
    contents := fun i =>
      if operation = .busMasterRead then v.memory (hostAddress.toNat + i) else 0 }

/-- The view after a call that was answered so. -/
def after : DmaCall ι → DmaAnswer → DmaView ι
  | .map d _ operation hostAddress _ numberOfBytes, .mapped (.ok (address, mapping)) =>
    if mapping = NO_MAPPING then
      v
    else
      v.setWindow d mapping (some (v.newWindow operation hostAddress numberOfBytes address))
  | .unmap d mapping, .status (.ok ()) =>
    match v.windows d mapping with
    | none => v
    | some w =>
      { v.setWindow d mapping none with
        memory :=
          if w.operation = .busMasterWrite then
            Segment.overlay v.memory w.hostAddress.toNat w.numberOfBytes.toNat w.contents
          else
            v.memory }
  | .allocateBuffer _ _ _ pages _, .allocated (.ok base) =>
    { v with
      memory := Segment.overlay v.memory base.toNat (efiPagesToSize pages).toNat fun _ => 0
      owned := v.owned ∪ pageSpan base pages }
  | .freeBuffer _ _ pages hostAddress, .status (.ok ()) =>
    { v with owned := v.owned \ pageSpan hostAddress pages }
  | .direct address accesses, _ =>
    { v with memory := (Access.run address.toNat accesses v.memory).1 }
  | .mapped d mapping _ accesses, _ =>
    match v.windows d mapping with
    | none => v
    | some w =>
      v.setWindow d mapping
        (some { w with contents := (Access.run 0 accesses w.contents).1 })
  | _, _ => v

/-- What the callers keep to: buffers are theirs, no page of a mapped buffer is freed, a device
stays inside its window, and nobody asks for all of memory. -/
def Allows : DmaCall ι → Prop
  | .map _ _ _ hostAddress _ numberOfBytes =>
    hostAddress.toNat + numberOfBytes.toNat ≤ 2 ^ 64 ∧
      ∀ i < numberOfBytes.toNat, (hostAddress.toNat + i) / 4096 ∈ v.owned
  | .allocateBuffer _ _ _ pages _ => 4096 * pages.toNat < 2 ^ 64
  | .freeBuffer _ _ pages hostAddress =>
    pageSpan hostAddress pages ⊆ v.owned ∧
      ∀ d mapping w, v.windows d mapping = some w → ∀ i < w.numberOfBytes.toNat,
        (w.hostAddress.toNat + i) / 4096 ∉ pageSpan hostAddress pages
  | .direct address accesses => ∀ a ∈ accesses, (address.toNat + a.index) / 4096 ∈ v.owned
  | .mapped d mapping address accesses =>
    ∃ w, v.windows d mapping = some w ∧ address = w.address ∧
      ∀ a ∈ accesses, a.index < w.numberOfBytes.toNat
  | _ => True

/-- The answer is one that the view gives. Requests for memory may fail; everything else is
settled by the view. -/
def Explains : DmaCall ι → DmaAnswer → Prop
  | .map _ _ operation hostAddress _ _, .mapped (.ok (address, mapping)) =>
    if mapping = NO_MAPPING then
      address = hostAddress.setWidth 128
    else
      (operation = .busMasterRead ∨ operation = .busMasterWrite) ∧
        ∀ d, v.windows d mapping = none
  | .map .., .mapped (.error _) => True
  | .unmap d mapping, .status status =>
    status =
      if mapping = NO_MAPPING ∨ (v.windows d mapping).isSome then .ok ()
      else .error .invalidParameter
  | .allocateBuffer _ _ _ pages _, .allocated (.ok base) =>
    base.toNat % 4096 = 0 ∧ ∀ page ∈ pageSpan base pages, page ∉ v.owned
  | .allocateBuffer .., .allocated (.error _) => True
  | .freeBuffer _ freePages pages _, .status status =>
    status = if pages = 0 then .error .invalidParameter else freePages
  | .direct address accesses, .observed bytes =>
    bytes = (Access.run address.toNat accesses v.memory).2
  | .mapped d mapping _ accesses, .observed bytes =>
    ∃ w, v.windows d mapping = some w ∧ bytes = (Access.run 0 accesses w.contents).2
  | _, _ => False

end DmaView

/-- A call on the system, with the view told the answer. -/
def DmaSystem.watched (c : DmaCall ι) (p : DmaSystem ι × DmaView ι) :
    DmaAnswer × (DmaSystem ι × DmaView ι) :=
  let (answer, σ) := DmaSystem.call devices c p.1
  (answer, σ, p.2.after c answer)

/-- The pool hands out no block that is in use for a mapping of any device. -/
def DmaSystem.FreshBlock (σ : DmaSystem ι) : DmaCall ι → Prop
  | .map d bs .. =>
    ∀ p, bs.allocatePool (σ.device d) = some p → ∀ d', ∀ m ∈ σ.maps d', m.self ≠ p
  | _ => True

structure MapInfo.Shown (m : MapInfo) (owned : Set Nat) (w : DmaWindow) : Prop where
  operation_eq : w.operation = m.operation
  host_eq : w.hostAddress = m.hostAddress
  bytes_eq : w.numberOfBytes = m.numberOfBytes
  address_eq : w.address = m.mappedHostAddress.setWidth 128
  host_owned : ∀ i < m.numberOfBytes.toNat, (m.hostAddress.toNat + i) / 4096 ∈ owned
  covers : ∀ i < m.numberOfBytes.toNat, m.Covers ((m.mappedHostAddress.toNat + i) / 4096)

/-- The windows are the mappings, and no two of them, nor one and the callers, share a page. -/
structure DmaLayout (σ : DmaSystem ι) (v : DmaView ι) : Prop where
  owned_used : ∀ page ∈ v.owned, σ.pageUsed page = true
  shown : ∀ d, ∀ m ∈ σ.maps d, ∃ w, v.windows d m.self = some w ∧ m.Shown v.owned w
  listed : ∀ d mapping w, v.windows d mapping = some w → ∃ m ∈ σ.maps d, m.self = mapping
  token : ∀ d, ∀ m ∈ σ.maps d, m.self ≠ 0 ∧ m.self ≠ NO_MAPPING
  nodup : ∀ d, ((σ.maps d).map (·.self)).Nodup
  owner : ∀ d d', ∀ m ∈ σ.maps d, ∀ m' ∈ σ.maps d', m.self = m'.self → d = d'
  taken : ∀ d, ∀ m ∈ σ.maps d, ∀ page, m.Covers page →
    σ.pageUsed page = true ∧ page ∉ v.owned
  disjoint : ∀ d d', ∀ m ∈ σ.maps d, ∀ m' ∈ σ.maps d', ∀ page, m.Covers page →
    m'.Covers page → d = d' ∧ m.self = m'.self

/-- The view shows the memory of the callers and the contents of every bounce buffer. -/
structure DmaShows (σ : DmaSystem ι) (v : DmaView ι) : Prop extends DmaLayout σ v where
  memory : ∀ x, x / 4096 ∈ v.owned → σ.memory x = v.memory x
  contents : ∀ d, ∀ m ∈ σ.maps d, ∀ w, v.windows d m.self = some w →
    ∀ i < m.numberOfBytes.toNat, σ.memory (m.mappedHostAddress.toNat + i) = w.contents i

end Windows

section Layout

variable {ι : Type} {σ : DmaSystem ι} {v : DmaView ι}

namespace DmaLayout

variable {d d' : ι} {m m' : MapInfo}

theorem covers (h : DmaLayout σ v) (hm : m ∈ σ.maps d) (i : Nat)
    (hi : i < m.numberOfBytes.toNat) : m.Covers ((m.mappedHostAddress.toNat + i) / 4096) := by
  obtain ⟨w, -, hshown⟩ := h.shown d m hm
  exact hshown.covers i hi

theorem host_owned (h : DmaLayout σ v) (hm : m ∈ σ.maps d) (i : Nat)
    (hi : i < m.numberOfBytes.toNat) : (m.hostAddress.toNat + i) / 4096 ∈ v.owned := by
  obtain ⟨w, -, hshown⟩ := h.shown d m hm
  exact hshown.host_owned i hi

theorem window_apart (h : DmaLayout σ v) (hm : m ∈ σ.maps d) (i : Nat)
    (hi : i < m.numberOfBytes.toNat) (x : Nat) (hx : x / 4096 ∈ v.owned) :
    m.mappedHostAddress.toNat + i ≠ x := by
  intro hsame
  have hclear := (h.taken d m hm _ (h.covers hm i hi)).2
  rw [hsame] at hclear
  exact hclear hx

theorem window_distinct (h : DmaLayout σ v) (hm : m ∈ σ.maps d) (hm' : m' ∈ σ.maps d')
    (i j : Nat) (hi : i < m.numberOfBytes.toNat) (hj : j < m'.numberOfBytes.toNat)
    (hne : ¬ (d = d' ∧ m.self = m'.self)) :
    m.mappedHostAddress.toNat + i ≠ m'.mappedHostAddress.toNat + j := by
  intro hsame
  have hcovers := h.covers hm i hi
  rw [hsame] at hcovers
  exact hne (h.disjoint d d' m hm m' hm' _ hcovers (h.covers hm' j hj))

theorem eq_of_self (h : DmaLayout σ v) (hm : m ∈ σ.maps d) (hm' : m' ∈ σ.maps d)
    (hself : m.self = m'.self) : m = m' :=
  List.inj_on_of_nodup_map (h.nodup d) hm hm' hself

theorem repage (h : DmaLayout σ v) (memory : Nat → U8) (pageUsed : Nat → Bool)
    (vmemory : Nat → U8) (owned : Set Nat) (hused : ∀ page ∈ owned, pageUsed page = true)
    (hhost : ∀ d, ∀ m ∈ σ.maps d, ∀ i < m.numberOfBytes.toNat,
      (m.hostAddress.toNat + i) / 4096 ∈ owned)
    (htaken : ∀ d, ∀ m ∈ σ.maps d, ∀ page, m.Covers page →
      pageUsed page = true ∧ page ∉ owned) :
    DmaLayout { σ with memory, pageUsed } { v with memory := vmemory, owned } where
  owned_used := hused
  shown d m hm := by
    obtain ⟨w, hw, hshown⟩ := h.shown d m hm
    exact ⟨w, hw, { hshown with host_owned := hhost d m hm }⟩
  listed := h.listed
  token := h.token
  nodup := h.nodup
  owner := h.owner
  taken := htaken
  disjoint := h.disjoint

end DmaLayout

theorem shows_direct (h : DmaShows σ v) (base : Nat) (accesses : List (Access U8))
    (hallowed : ∀ a ∈ accesses, (base + a.index) / 4096 ∈ v.owned) :
    (Access.run base accesses σ.memory).2 = (Access.run base accesses v.memory).2 ∧
      DmaShows { σ with memory := (Access.run base accesses σ.memory).1 }
        { v with memory := (Access.run base accesses v.memory).1 } := by
  obtain ⟨hobserved, hleft⟩ := Access.run_agree base base accesses σ.memory v.memory
    (fun i => (base + i) / 4096 ∈ v.owned) hallowed (fun i hi => h.memory _ hi)
  refine ⟨hobserved, ?_, ?_, ?_⟩
  · exact h.repage _ σ.pageUsed _ v.owned h.owned_used (fun d m hm => h.host_owned hm) h.taken
  · intro x hx
    dsimp only
    by_cases hbase : base ≤ x
    · obtain ⟨i, rfl⟩ := Nat.exists_eq_add_of_le hbase
      exact hleft i hx
    · rw [Access.run_untouched _ _ _ x (by omega), Access.run_untouched _ _ _ x (by omega)]
      exact h.memory x hx
  · intro d m hm w hw i hi
    dsimp only
    rw [Access.run_untouched]
    · exact h.contents d m hm w hw i hi
    · intro a ha
      exact (h.window_apart hm i hi _ (hallowed a ha)).symm

theorem shows_unmappedSystem (hmaps : ∀ d, σ.maps d = [])
    (hwindows : ∀ d mapping, v.windows d mapping = none)
    (hused : ∀ page ∈ v.owned, σ.pageUsed page = true)
    (hmemory : ∀ x, x / 4096 ∈ v.owned → σ.memory x = v.memory x) : DmaShows σ v where
  owned_used := hused
  shown d m hm := by simp [hmaps d] at hm
  listed d mapping w hw := by simp [hwindows d mapping] at hw
  token d m hm := by simp [hmaps d] at hm
  nodup d := by simp [hmaps d]
  owner d _ m hm := by simp [hmaps d] at hm
  taken d m hm := by simp [hmaps d] at hm
  disjoint d _ m hm := by simp [hmaps d] at hm
  memory := hmemory
  contents d m hm := by simp [hmaps d] at hm

end Layout

section Step

variable {ι : Type} [DecidableEq ι] {devices : ι → DtDevice} {σ : DmaSystem ι} {v : DmaView ι}

theorem DmaView.windows_setWindow (v : DmaView ι) (d d' : ι) (mapping mapping' : DmaMapping)
    (window : Option DmaWindow) :
    (v.setWindow d mapping window).windows d' mapping' =
      if d' = d ∧ mapping' = mapping then window else v.windows d' mapping' := by
  rw [setWindow]
  by_cases hd : d' = d
  · subst hd
    by_cases hm : mapping' = mapping
    · rw [if_pos ⟨rfl, hm⟩, hm]
      simp
    · rw [if_neg (fun hboth => hm hboth.2)]
      simp [hm]
  · rw [if_neg (fun hboth => hd hboth.1)]
    simp [hd]

section Mapped

variable {bs : BootServices} {d : ι} {operation : DmaOperation} {hostAddress : U64}
  {numberOfBytes : Uintn} {info : MapInfo} {s : DmaState}

theorem layout_mapped (h : DmaLayout σ v)
    (howned : ∀ i < numberOfBytes.toNat, (hostAddress.toNat + i) / 4096 ∈ v.owned)
    (hfresh : ∀ d', ∀ m ∈ σ.maps d', m.self ≠ info.self)
    (hfilled : BounceFilled bs operation hostAddress numberOfBytes (σ.device d) info s) :
    DmaLayout (σ.withDevice d s) (v.setWindow d info.self (some (v.newWindow operation hostAddress
      numberOfBytes (info.mappedHostAddress.setWidth 128)))) := by
  have hmem := mem_bounceMade hfilled.toBounceMade
  have hmaps : s.maps = σ.maps d ++ [info] := hfilled.maps_eq
  have hused (page : Nat) : (σ.withDevice d s).pageUsed page = true ↔
      σ.pageUsed page = true ∨ info.Covers page := by
    have htaken := pageUsed_takePages (σ.device d) info page
    rw [← hfilled.pageUsed_eq] at htaken
    exact htaken
  have hfree (page : Nat) (hpage : info.Covers page) : σ.pageUsed page = false :=
    free_of_bounceMade bs (σ.device d) s info hfilled.toBounceMade page hpage
  have hclear (d' : ι) (m : MapInfo) (hm : m ∈ σ.maps d') (page : Nat) (hpage : m.Covers page) :
      ¬ info.Covers page := by
    intro hboth
    have htaken := (h.taken d' m hm page hpage).1
    rw [hfree page hboth] at htaken
    exact absurd htaken (by decide)
  have hkept (d' : ι) (m : MapInfo) (hm : m ∈ σ.maps d') : ¬ (d' = d ∧ m.self = info.self) :=
    fun hboth => hfresh d' m hm hboth.2
  constructor
  · intro page hpage
    exact (hused page).mpr (.inl (h.owned_used page hpage))
  · intro d' m hm
    rw [DmaView.windows_setWindow]
    obtain hold | ⟨rfl, rfl⟩ := (hmem d' m).mp hm
    · rw [if_neg (hkept d' m hold)]
      exact h.shown d' m hold
    · rw [if_pos ⟨rfl, rfl⟩]
      refine ⟨_, rfl, hfilled.operation_eq.symm, hfilled.host_eq.symm, hfilled.bytes_eq.symm, rfl,
        ?_, ?_⟩
      · rw [hfilled.bytes_eq, hfilled.host_eq]
        exact howned
      · rw [hfilled.bytes_eq]
        exact hfilled.covers
  · intro d' mapping w hw
    rw [DmaView.windows_setWindow] at hw
    split at hw
    · next hnew => exact ⟨info, (hmem d' info).mpr (.inr ⟨hnew.1, rfl⟩), hnew.2.symm⟩
    · obtain ⟨m, hm, hself⟩ := h.listed d' mapping w hw
      exact ⟨m, (hmem d' m).mpr (.inl hm), hself⟩
  · intro d' m hm
    obtain hold | ⟨-, rfl⟩ := (hmem d' m).mp hm
    · exact h.token d' m hold
    · exact bs.pool_ne_noMapping _ _ hfilled.pool
  · intro d'
    by_cases hd : d' = d
    · subst hd
      have hunlisted : info.self ∉ (σ.maps d').map (·.self) := by
        intro hin
        obtain ⟨m, hm, hsame⟩ := List.mem_map.mp hin
        exact hfresh d' m hm hsame
      have hlist : (σ.withDevice d' s).maps d' = σ.maps d' ++ [info] := by
        rw [← hmaps]
        simp [DmaSystem.withDevice]
      rw [hlist, List.map_append, List.map_singleton]
      exact List.nodup_append_comm.mp (List.nodup_cons.mpr ⟨hunlisted, h.nodup d'⟩)
    · have hlist : (σ.withDevice d s).maps d' = σ.maps d' := by
        simp [DmaSystem.withDevice, hd]
      rw [hlist]
      exact h.nodup d'
  · intro d₁ d₂ m₁ hm₁ m₂ hm₂ hsame
    obtain hold₁ | ⟨hd₁, hinfo₁⟩ := (hmem d₁ m₁).mp hm₁
    · obtain hold₂ | ⟨-, hinfo₂⟩ := (hmem d₂ m₂).mp hm₂
      · exact h.owner d₁ d₂ m₁ hold₁ m₂ hold₂ hsame
      · exact absurd (hinfo₂ ▸ hsame) (hfresh d₁ m₁ hold₁)
    · obtain hold₂ | ⟨hd₂, -⟩ := (hmem d₂ m₂).mp hm₂
      · exact absurd (hinfo₁ ▸ hsame.symm) (hfresh d₂ m₂ hold₂)
      · exact hd₁.trans hd₂.symm
  · intro d' m hm page hpage
    obtain hold | ⟨-, rfl⟩ := (hmem d' m).mp hm
    · have htaken := h.taken d' m hold page hpage
      exact ⟨(hused page).mpr (.inl htaken.1), htaken.2⟩
    · refine ⟨(hused page).mpr (.inr hpage), fun hin => ?_⟩
      have hbefore := h.owned_used page hin
      rw [hfree page hpage] at hbefore
      exact absurd hbefore (by decide)
  · intro d₁ d₂ m₁ hm₁ m₂ hm₂ page hc₁ hc₂
    obtain hold₁ | ⟨hd₁, hinfo₁⟩ := (hmem d₁ m₁).mp hm₁
    · obtain hold₂ | ⟨-, hinfo₂⟩ := (hmem d₂ m₂).mp hm₂
      · exact h.disjoint d₁ d₂ m₁ hold₁ m₂ hold₂ page hc₁ hc₂
      · exact absurd (hinfo₂ ▸ hc₂) (hclear d₁ m₁ hold₁ page hc₁)
    · obtain hold₂ | ⟨hd₂, hinfo₂⟩ := (hmem d₂ m₂).mp hm₂
      · exact absurd (hinfo₁ ▸ hc₁) (hclear d₂ m₂ hold₂ page hc₂)
      · exact ⟨hd₁.trans hd₂.symm, by rw [hinfo₁, hinfo₂]⟩

/-- A new bounce buffer is a new window, and touches nothing that the view shows. -/
theorem shows_mapped (h : DmaShows σ v)
    (howned : ∀ i < numberOfBytes.toNat, (hostAddress.toNat + i) / 4096 ∈ v.owned)
    (hfresh : ∀ d', ∀ m ∈ σ.maps d', m.self ≠ info.self)
    (hfilled : BounceFilled bs operation hostAddress numberOfBytes (σ.device d) info s) :
    DmaShows (σ.withDevice d s) (v.setWindow d info.self (some (v.newWindow operation hostAddress
      numberOfBytes (info.mappedHostAddress.setWidth 128)))) := by
  refine ⟨layout_mapped h.toDmaLayout howned hfresh hfilled, ?_, ?_⟩
  · intro x hx
    exact (hfilled.outside x (h.owned_used _ hx)).trans (h.memory x hx)
  · intro d' m hm w hw i hi
    rw [DmaView.windows_setWindow] at hw
    obtain hold | ⟨rfl, rfl⟩ := (mem_bounceMade hfilled.toBounceMade d' m).mp hm
    · rw [if_neg (fun hboth => hfresh d' m hold hboth.2)] at hw
      have hused := (h.taken d' m hold _ (h.covers hold i hi)).1
      exact (hfilled.outside _ hused).trans (h.contents d' m hold w hw i hi)
    · rw [if_pos ⟨rfl, rfl⟩, Option.some.injEq] at hw
      rw [hfilled.bytes_eq] at hi
      subst hw
      refine (hfilled.contents i hi).trans ?_
      rw [DmaView.newWindow]
      exact ite_congr rfl (fun _ => h.memory _ (howned i hi)) (fun _ => rfl)

end Mapped

section Unmapped

variable {d : ι} {info : MapInfo} {s : DmaState}

theorem mem_unmapped (h : DmaLayout σ v) (hlisted : info ∈ σ.maps d)
    (hended : BounceEnded (σ.device d) info s) (d' : ι) (m : MapInfo) :
    m ∈ (σ.withDevice d s).maps d' ↔ m ∈ σ.maps d' ∧ m.self ≠ info.self := by
  have hmaps : s.maps = (σ.maps d).eraseP (·.self = info.self) := hended.maps_eq
  rw [mem_withDevice, hmaps, KeyedList.mem_eraseP_key (h.nodup d)]
  constructor
  · intro hm
    cases hm with
    | inl hown => exact hown.1 ▸ hown.2
    | inr hother =>
        exact ⟨hother.2, fun hsame =>
          hother.1 (h.owner d' d m hother.2 info hlisted hsame)⟩
  · intro hm
    by_cases hd : d' = d
    · exact .inl ⟨hd, hd ▸ hm⟩
    · exact .inr ⟨hd, hm.1⟩

/-- The view without the window of a mapping, over what is copied back. -/
theorem layout_unmapped (h : DmaLayout σ v) (hlisted : info ∈ σ.maps d)
    (hended : BounceEnded (σ.device d) info s) (memory : Nat → U8) :
    DmaLayout (σ.withDevice d s) { v.setWindow d info.self none with memory } := by
  have hmem := mem_unmapped h hlisted hended
  have hmaps : s.maps = (σ.maps d).eraseP (·.self = info.self) := hended.maps_eq
  have hused (page : Nat) : (σ.withDevice d s).pageUsed page = true ↔
      σ.pageUsed page = true ∧ ¬ info.Covers page := by
    have hfreed := pageUsed_freePages (σ.device d) info page
    rw [← hended.pageUsed_eq] at hfreed
    exact hfreed
  constructor
  · intro page hpage
    exact (hused page).mpr ⟨h.owned_used page hpage, fun hcovers =>
      (h.taken d info hlisted page hcovers).2 hpage⟩
  · intro d' m hm
    obtain ⟨hold, hne⟩ := (hmem d' m).mp hm
    obtain ⟨w, hw, hshown⟩ := h.shown d' m hold
    refine ⟨w, ?_, hshown⟩
    dsimp only
    rw [DmaView.windows_setWindow, if_neg (fun hboth => hne hboth.2), hw]
  · intro d' mapping w hw
    dsimp only at hw
    rw [DmaView.windows_setWindow] at hw
    split at hw
    · simp at hw
    · next hother =>
      obtain ⟨m, hm, hself⟩ := h.listed d' mapping w hw
      refine ⟨m, (hmem d' m).mpr ⟨hm, fun hsame => hother ?_⟩, hself⟩
      exact ⟨h.owner d' d m hm info hlisted hsame, hself.symm.trans hsame⟩
  · intro d' m hm
    exact h.token d' m ((hmem d' m).mp hm).1
  · intro d'
    by_cases hd : d' = d
    · subst hd
      have hlist : (σ.withDevice d' s).maps d' = (σ.maps d').eraseP (·.self = info.self) := by
        rw [← hmaps]
        simp [DmaSystem.withDevice]
      rw [hlist]
      exact (h.nodup d').sublist (List.eraseP_sublist.map _)
    · have hlist : (σ.withDevice d s).maps d' = σ.maps d' := by
        simp [DmaSystem.withDevice, hd]
      rw [hlist]
      exact h.nodup d'
  · intro d₁ d₂ m₁ hm₁ m₂ hm₂
    exact h.owner d₁ d₂ m₁ ((hmem d₁ m₁).mp hm₁).1 m₂ ((hmem d₂ m₂).mp hm₂).1
  · intro d' m hm page hpage
    obtain ⟨hold, hne⟩ := (hmem d' m).mp hm
    have htaken := h.taken d' m hold page hpage
    refine ⟨(hused page).mpr ⟨htaken.1, fun hcovers => hne ?_⟩, htaken.2⟩
    exact (h.disjoint d' d m hold info hlisted page hpage hcovers).2
  · intro d₁ d₂ m₁ hm₁ m₂ hm₂
    exact h.disjoint d₁ d₂ m₁ ((hmem d₁ m₁).mp hm₁).1 m₂ ((hmem d₂ m₂).mp hm₂).1

/-- Unmap gives the callers the contents of the window, and leaves every other window alone. -/
theorem shows_unmapped (h : DmaShows σ v) (hlisted : info ∈ σ.maps d) (w : DmaWindow)
    (hw : v.windows d info.self = some w) (hended : BounceEnded (σ.device d) info s)
    (hmemory : s.memory =
      if info.operation = .busMasterWrite then
        Segment.overlay σ.memory info.hostAddress.toNat info.numberOfBytes.toNat
          (fun i => σ.memory (info.mappedHostAddress.toNat + i))
      else
        σ.memory) :
    DmaShows (σ.withDevice d s)
      { v.setWindow d info.self none with
        memory :=
          if w.operation = .busMasterWrite then
            Segment.overlay v.memory w.hostAddress.toNat w.numberOfBytes.toNat w.contents
          else
            v.memory } := by
  obtain ⟨w', hw', hshown⟩ := h.shown d info hlisted
  obtain rfl : w = w' := Option.some.inj (hw.symm.trans hw')
  have hcontents := h.contents d info hlisted w hw
  refine ⟨layout_unmapped h.toDmaLayout hlisted hended _, ?_, ?_⟩
  · intro x hx
    have hsame := h.memory x hx
    have hafter : (σ.withDevice d s).memory x = s.memory x := rfl
    rw [hafter, hmemory]
    dsimp only
    rw [hshown.operation_eq, hshown.host_eq, hshown.bytes_eq]
    split
    · by_cases hin : info.hostAddress.toNat ≤ x ∧
          x < info.hostAddress.toNat + info.numberOfBytes.toNat
      · rw [Segment.overlay_inside _ _ _ _ x hin.1 hin.2,
          Segment.overlay_inside _ _ _ _ x hin.1 hin.2]
        exact hcontents _ (by omega)
      · rw [Segment.overlay_outside _ _ _ _ x (by omega),
          Segment.overlay_outside _ _ _ _ x (by omega), hsame]
    · exact hsame
  · intro d' m hm w' hw' i hi
    obtain ⟨hold, hne⟩ := (mem_unmapped h.toDmaLayout hlisted hended d' m).mp hm
    dsimp only at hw'
    rw [DmaView.windows_setWindow, if_neg (fun hboth => hne hboth.2)] at hw'
    have hsame := h.contents d' m hold w' hw' i hi
    have hafter : (σ.withDevice d s).memory (m.mappedHostAddress.toNat + i) =
        s.memory (m.mappedHostAddress.toNat + i) := rfl
    rw [hafter, hmemory]
    split
    · rw [Segment.overlay_outside, hsame]
      by_contra hin
      have hx := h.host_owned hlisted
        (m.mappedHostAddress.toNat + i - info.hostAddress.toNat) (by omega)
      refine h.window_apart hold i hi _ hx ?_
      omega
    · exact hsame

end Unmapped

section Pages

variable {d : ι}

theorem mem_pageSpan (base : U64) (pages : Uintn) (page : Nat) :
    page ∈ pageSpan base pages ↔
      base.toNat / 4096 ≤ page ∧ page < base.toNat / 4096 + pages.toNat := Iff.rfl

/-- Memory of the allocation services becomes memory of the callers, cleared. -/
theorem shows_allocated (h : DmaShows σ v) (bs : BootServices) (memoryType : EfiMemoryType)
    (limit base : U64) (pages : Uintn)
    (hpages : bs.allocatePages (σ.device d) memoryType limit pages = .ok base)
    (hallowed : 4096 * pages.toNat < 2 ^ 64) :
    (∀ page ∈ pageSpan base pages, page ∉ v.owned) ∧
      DmaShows
        (σ.withDevice d (((σ.device d).takePages base pages).zeroMem base (efiPagesToSize pages)))
        { v with
          memory := Segment.overlay v.memory base.toNat (efiPagesToSize pages).toNat fun _ => 0
          owned := v.owned ∪ pageSpan base pages } := by
  have haligned := bs.pages_aligned _ _ _ _ base hpages
  have hfree (page : Nat) (hpage : page ∈ pageSpan base pages) : σ.pageUsed page = false := by
    have hoffset := bs.pages_free _ _ _ _ base hpages (page - base.toNat / 4096)
      (Nat.sub_lt_left_of_lt_add hpage.1 hpage.2)
    rw [Nat.add_sub_cancel' hpage.1] at hoffset
    exact hoffset
  have hsize := toNat_efiPagesToSize pages hallowed
  have hspan (x : Nat) : x / 4096 ∈ pageSpan base pages ↔
      base.toNat ≤ x ∧ x < base.toNat + (efiPagesToSize pages).toNat := by
    rw [mem_pageSpan, hsize]
    omega
  have hsystem : σ.withDevice d
      (((σ.device d).takePages base pages).zeroMem base (efiPagesToSize pages)) =
        { σ with
          memory := Segment.overlay σ.memory base.toNat (efiPagesToSize pages).toNat fun _ => 0
          pageUsed := ((σ.device d).takePages base pages).pageUsed } := by
    simp [DmaSystem.withDevice, DmaSystem.device, DmaState.takePages, DmaState.zeroMem]
  have hused (page : Nat) : ((σ.device d).takePages base pages).pageUsed page = true ↔
      σ.pageUsed page = true ∨ page ∈ pageSpan base pages :=
    pageUsed_takePages (σ.device d) ⟨0, .maximum, 0, pages, 0, base⟩ page
  have hunused (page : Nat) (hpage : page ∈ pageSpan base pages) :
      ¬ σ.pageUsed page = true := by
    rw [hfree page hpage]
    decide
  rw [hsystem]
  refine ⟨fun page hpage hin => hunused page hpage (h.owned_used page hin), ?_, ?_, ?_⟩
  · apply h.repage
    · intro page hpage
      exact (hused page).mpr (hpage.imp_left (h.owned_used page))
    · exact fun d' m hm i hi => .inl (h.host_owned hm i hi)
    · intro d' m hm page hpage
      have htaken := h.taken d' m hm page hpage
      exact ⟨(hused page).mpr (.inl htaken.1), fun hin =>
        hin.elim htaken.2 (fun hnew => hunused page hnew htaken.1)⟩
  · intro x hx
    dsimp only
    by_cases hin : x / 4096 ∈ pageSpan base pages
    · have hbytes := (hspan x).mp hin
      rw [Segment.overlay_inside _ _ _ _ x hbytes.1 hbytes.2,
        Segment.overlay_inside _ _ _ _ x hbytes.1 hbytes.2]
    · exact Segment.overlay_eq_of_eq _ _ _ _ _ x (h.memory x (hx.resolve_right hin))
  · intro d' m hm w hw i hi
    have htaken := h.taken d' m hm _ (h.covers hm i hi)
    have hout : ¬ (base.toNat ≤ m.mappedHostAddress.toNat + i ∧
        m.mappedHostAddress.toNat + i < base.toNat + (efiPagesToSize pages).toNat) :=
      fun hin => hunused _ ((hspan _).mpr hin) htaken.1
    dsimp only
    rw [Segment.overlay_outside _ _ _ _ _ (by omega)]
    exact h.contents d' m hm w hw i hi

/-- Pages of the callers that no mapped buffer lies in may be given back. -/
theorem shows_freed (h : DmaShows σ v) (pages : Uintn) (hostAddress : U64)
    (hsubset : pageSpan hostAddress pages ⊆ v.owned)
    (hunmapped : ∀ d mapping w, v.windows d mapping = some w → ∀ i < w.numberOfBytes.toNat,
      (w.hostAddress.toNat + i) / 4096 ∉ pageSpan hostAddress pages) :
    DmaShows (σ.withDevice d ((σ.device d).freePages hostAddress pages))
      { v with owned := v.owned \ pageSpan hostAddress pages } := by
  have hsystem : σ.withDevice d ((σ.device d).freePages hostAddress pages) =
      { σ with pageUsed := ((σ.device d).freePages hostAddress pages).pageUsed } := by
    simp [DmaSystem.withDevice, DmaSystem.device, DmaState.freePages]
  have hused (page : Nat) : ((σ.device d).freePages hostAddress pages).pageUsed page = true ↔
      σ.pageUsed page = true ∧ page ∉ pageSpan hostAddress pages :=
    pageUsed_freePages (σ.device d) ⟨0, .maximum, 0, pages, 0, hostAddress⟩ page
  rw [hsystem]
  refine ⟨?_, fun x hx => h.memory x hx.1, h.contents⟩
  apply h.repage
  · intro page hpage
    exact (hused page).mpr ⟨h.owned_used page hpage.1, hpage.2⟩
  · intro d' m hm i hi
    obtain ⟨w, hw, hshown⟩ := h.shown d' m hm
    have hout := hunmapped d' m.self w hw i (hshown.bytes_eq.symm ▸ hi)
    rw [hshown.host_eq] at hout
    exact ⟨hshown.host_owned i hi, hout⟩
  · intro d' m hm page hpage
    have htaken := h.taken d' m hm page hpage
    exact ⟨(hused page).mpr ⟨htaken.1, fun hin => htaken.2 (hsubset hin)⟩,
      fun hin => htaken.2 hin.1⟩

end Pages

theorem shows_accessed (h : DmaShows σ v) (d : ι) (mapping : DmaMapping) (w : DmaWindow)
    (hw : v.windows d mapping = some w) (accesses : List (Access U8))
    (hallowed : ∀ a ∈ accesses, a.index < w.numberOfBytes.toNat) :
    (Access.run w.address.toNat accesses σ.memory).2 = (Access.run 0 accesses w.contents).2 ∧
      DmaShows { σ with memory := (Access.run w.address.toNat accesses σ.memory).1 }
        (v.setWindow d mapping
          (some { w with contents := (Access.run 0 accesses w.contents).1 })) := by
  obtain ⟨m, hm, rfl⟩ := h.listed d mapping w hw
  obtain ⟨w', hw', hshown⟩ := h.shown d m hm
  obtain rfl : w = w' := Option.some.inj (hw.symm.trans hw')
  have haddress : w.address.toNat = m.mappedHostAddress.toNat := by
    rw [hshown.address_eq]
    exact toNat_deviceAddress m.mappedHostAddress
  rw [hshown.bytes_eq] at hallowed
  rw [haddress]
  obtain ⟨hobserved, hleft⟩ := Access.run_agree m.mappedHostAddress.toNat 0 accesses σ.memory
    w.contents (· < m.numberOfBytes.toNat) hallowed
    (fun i hi => (h.contents d m hm w hw i hi).trans (congrArg w.contents (Nat.zero_add i).symm))
  refine ⟨hobserved, ?_, ?_, ?_⟩
  · constructor
    · exact h.owned_used
    · intro d' m' hm'
      rw [DmaView.windows_setWindow]
      split
      · next hsame =>
        obtain rfl := hsame.1
        obtain rfl := h.eq_of_self hm' hm hsame.2
        exact ⟨_, rfl, { hshown with }⟩
      · exact h.shown d' m' hm'
    · intro d' mapping' w' hw'
      rw [DmaView.windows_setWindow] at hw'
      split at hw'
      · next hsame => exact ⟨m, hsame.1.symm ▸ hm, hsame.2.symm⟩
      · exact h.listed d' mapping' w' hw'
    · exact h.token
    · exact h.nodup
    · exact h.owner
    · exact h.taken
    · exact h.disjoint
  · intro x hx
    dsimp only
    rw [Access.run_untouched]
    · exact h.memory x hx
    · exact fun a ha => h.window_apart hm _ (hallowed a ha) x hx
  · intro d' m' hm' after hafter i hi
    dsimp only
    rw [DmaView.windows_setWindow] at hafter
    split at hafter
    · next hsame =>
      obtain rfl := hsame.1
      obtain rfl := h.eq_of_self hm' hm hsame.2
      rw [Option.some.injEq] at hafter
      subst hafter
      dsimp only
      rw [hleft i hi, Nat.zero_add]
    · next hother =>
      rw [Access.run_untouched]
      · exact h.contents d' m' hm' after hafter i hi
      · intro a ha
        refine h.window_distinct hm hm' _ i (hallowed a ha) hi fun hboth => hother ?_
        exact ⟨hboth.1.symm, hboth.2.symm⟩

theorem watched_map (h : DmaShows σ v) (d : ι) (bs : BootServices) (operation : DmaOperation)
    (hostAddress : U64) (extra : Option DmaExtra) (numberOfBytes : Uintn)
    (hallowed : v.Allows (.map d bs operation hostAddress extra numberOfBytes))
    (hfresh : σ.FreshBlock (.map d bs operation hostAddress extra numberOfBytes)) :
    let c := DmaCall.map d bs operation hostAddress extra numberOfBytes
    v.Explains c (DmaSystem.call devices c σ).1 ∧
      DmaShows (DmaSystem.call devices c σ).2 (v.after c (DmaSystem.call devices c σ).1) := by
  dsimp only
  rw [DmaSystem.call]
  obtain ⟨e, hmap⟩ | hmap | ⟨limit, hop, hmap⟩ := dtIoMap_path bs (devices d) operation hostAddress
    numberOfBytes (σ.device d) extra true
  · rw [hmap]
    dsimp only
    rw [DmaSystem.withDevice_device]
    exact ⟨trivial, h⟩
  · rw [hmap]
    dsimp only
    rw [DmaSystem.withDevice_device, DmaView.Explains, DmaView.after, if_pos rfl, if_pos rfl]
    exact ⟨rfl, h⟩
  · rw [hmap]
    obtain ⟨e, hbounce⟩ | ⟨info, s', hbounce, -⟩ :=
      dtIoMapBounce_cases bs (σ.device d) operation hostAddress limit numberOfBytes
    · rw [hbounce]
      dsimp only
      rw [DmaSystem.withDevice_device]
      exact ⟨trivial, h⟩
    · obtain ⟨info', haddress, hself, hfilled⟩ := bounceFilled_of_ok bs operation hostAddress
        numberOfBytes (σ.device d) limit _ _ s'
        (fun i hi => h.owned_used _ (hallowed.2 i hi)) hbounce
      have hnew := hfresh _ hfilled.pool
      have hnone := (bs.pool_ne_noMapping _ _ hfilled.pool).2
      rw [hbounce]
      dsimp only
      rw [haddress, hself, DmaView.Explains, DmaView.after, if_neg hnone, if_neg hnone]
      refine ⟨⟨hop, fun d' => ?_⟩, shows_mapped h hallowed.2 hnew hfilled⟩
      by_contra hlive
      obtain ⟨w, hw⟩ := Option.ne_none_iff_exists'.mp hlive
      obtain ⟨m, hm, hsame⟩ := h.listed d' _ w hw
      exact hnew d' m hm hsame

theorem watched_unmap (h : DmaShows σ v) (d : ι) (mapping : DmaMapping) :
    let c := DmaCall.unmap d mapping
    v.Explains c (DmaSystem.call devices c σ).1 ∧
      DmaShows (DmaSystem.call devices c σ).2 (v.after c (DmaSystem.call devices c σ).1) := by
  dsimp only
  rw [DmaSystem.call]
  by_cases hlisted : mapping ∈ (σ.maps d).map (·.self)
  · have htoken : mapping ≠ 0 ∧ mapping ≠ NO_MAPPING := by
      obtain ⟨m, hm, rfl⟩ := List.mem_map.mp hlisted
      exact h.token d m hm
    obtain ⟨info, hinfo, rfl, s', hunmap, hended, hmemory⟩ :=
      dtIoUnmap_copied (devices d) (σ.device d) mapping htoken.1 htoken.2 hlisted
    obtain ⟨w, hw, -⟩ := h.shown d info hinfo
    rw [hunmap]
    dsimp only
    rw [DmaView.Explains, DmaView.after, hw, if_pos (.inr rfl)]
    exact ⟨rfl, shows_unmapped h hinfo w hw hended hmemory⟩
  · have hwindow : v.windows d mapping = none := by
      by_contra hlive
      obtain ⟨w, hw⟩ := Option.ne_none_iff_exists'.mp hlive
      obtain ⟨m, hm, hsame⟩ := h.listed d _ w hw
      exact hlisted (List.mem_map.mpr ⟨m, hm, hsame⟩)
    by_cases hnone : mapping = NO_MAPPING
    · subst hnone
      rw [dtIoUnmap_noMapping]
      dsimp only
      rw [DmaSystem.withDevice_device, DmaView.Explains, DmaView.after, hwindow, if_pos (.inl rfl)]
      exact ⟨rfl, h⟩
    · rw [dtIoUnmap_unknown _ _ _ hnone hlisted]
      dsimp only
      rw [DmaSystem.withDevice_device, DmaView.Explains, hwindow,
        if_neg (fun heither => heither.elim hnone (by simp))]
      exact ⟨rfl, h⟩

theorem watched_allocateBuffer (h : DmaShows σ v) (d : ι) (bs : BootServices)
    (memoryType : EfiMemoryType) (pages : Uintn) (extra : Option DmaExtra)
    (hallowed : v.Allows (.allocateBuffer d bs memoryType pages extra)) :
    let c := DmaCall.allocateBuffer d bs memoryType pages extra
    v.Explains c (DmaSystem.call devices c σ).1 ∧
      DmaShows (DmaSystem.call devices c σ).2 (v.after c (DmaSystem.call devices c σ).1) := by
  dsimp only
  rw [DmaSystem.call]
  obtain ⟨e, hcall⟩ | ⟨limit, base, hpages, hcall⟩ :=
    dtIoAllocateBuffer_cases bs (devices d) (σ.device d) memoryType pages extra true
  · rw [hcall]
    dsimp only
    rw [DmaSystem.withDevice_device]
    exact ⟨trivial, h⟩
  · obtain ⟨hnew, hshows⟩ := shows_allocated h bs memoryType limit base pages hpages hallowed
    rw [hcall]
    exact ⟨⟨bs.pages_aligned _ _ _ _ _ hpages, hnew⟩, hshows⟩

theorem watched_freeBuffer (h : DmaShows σ v) (d : ι) (freePages : EfiStatus) (pages : Uintn)
    (hostAddress : U64) (hallowed : v.Allows (.freeBuffer d freePages pages hostAddress)) :
    let c := DmaCall.freeBuffer d freePages pages hostAddress
    v.Explains c (DmaSystem.call devices c σ).1 ∧
      DmaShows (DmaSystem.call devices c σ).2 (v.after c (DmaSystem.call devices c σ).1) := by
  dsimp only
  rw [DmaSystem.call]
  simp only [dtIoFreeBuffer, Option.isNone_some, Bool.false_or, decide_eq_true_eq]
  by_cases hpages : pages = 0
  · rw [if_pos hpages]
    dsimp only
    rw [DmaSystem.withDevice_device, DmaView.Explains, if_pos hpages]
    exact ⟨rfl, h⟩
  · rw [if_neg hpages]
    cases freePages with
    | error e =>
        dsimp only
        rw [DmaSystem.withDevice_device, DmaView.Explains, if_neg hpages]
        exact ⟨rfl, h⟩
    | ok _ =>
        dsimp only
        rw [DmaView.Explains, if_neg hpages]
        exact ⟨rfl, shows_freed h pages hostAddress hallowed.1 hallowed.2⟩

theorem watched_mapped (h : DmaShows σ v) (d : ι) (mapping : DmaMapping) (address : DtBusAddress)
    (accesses : List (Access U8)) (hallowed : v.Allows (.mapped d mapping address accesses)) :
    let c := DmaCall.mapped d mapping address accesses
    v.Explains c (DmaSystem.call devices c σ).1 ∧
      DmaShows (DmaSystem.call devices c σ).2 (v.after c (DmaSystem.call devices c σ).1) := by
  obtain ⟨w, hw, rfl, hinside⟩ := hallowed
  obtain ⟨hobserved, hshows⟩ := shows_accessed h d mapping w hw accesses hinside
  dsimp only
  rw [DmaSystem.call, DmaView.after, hw]
  exact ⟨⟨w, hw, hobserved⟩, hshows⟩

/-- Every call is answered as the view says, and leaves what the view shows. -/
theorem dmaWatched (c : DmaCall ι) (h : DmaShows σ v) (hallowed : v.Allows c)
    (hfresh : σ.FreshBlock c) :
    v.Explains c (DmaSystem.call devices c σ).1 ∧
      DmaShows (DmaSystem.call devices c σ).2 (v.after c (DmaSystem.call devices c σ).1) := by
  cases c with
  | map d bs operation hostAddress extra numberOfBytes =>
      exact watched_map h d bs operation hostAddress extra numberOfBytes hallowed hfresh
  | unmap d mapping => exact watched_unmap h d mapping
  | allocateBuffer d bs memoryType pages extra =>
      exact watched_allocateBuffer h d bs memoryType pages extra hallowed
  | freeBuffer d freePages pages hostAddress =>
      exact watched_freeBuffer h d freePages pages hostAddress hallowed
  | direct address accesses => exact shows_direct h address.toNat accesses hallowed
  | mapped d mapping address accesses => exact watched_mapped h d mapping address accesses hallowed

/-- In every session of any number of devices and the processor, in any order, every call is
answered as the view says: a device reads what its window holds, and the callers never see a
bounce buffer, nor lose a byte to one. -/
theorem dmaSession_refines (devices : ι → DtDevice) (calls : List (DmaCall ι)) (σ : DmaSystem ι)
    (v : DmaView ι) (h : DmaShows σ v)
    (hcalls : Session.Along (DmaSystem.watched devices)
      (fun c p => p.2.Allows c ∧ p.1.FreshBlock c) calls (σ, v)) :
    Session.Along (DmaSystem.watched devices)
        (fun c p => p.2.Explains c (DmaSystem.call devices c p.1).1) calls (σ, v) ∧
      let left := (Session.run (DmaSystem.watched devices) calls (σ, v)).2
      DmaShows left.1 left.2 :=
  Session.along_of_invariant (fun p => DmaShows p.1 p.2)
    (fun c _ hshows hcall => dmaWatched c hshows hcall.1 hcall.2) calls (σ, v) hcalls h

end Step

/-- The small machine with one block of pool. -/
def oneBlock (block : DmaMapping) (hblock : block ≠ 0 ∧ block ≠ NO_MAPPING) : BootServices :=
  { smallMachine with
    allocatePool := fun s => if ∀ m ∈ s.maps, m.self ≠ block then some block else none
    pool_ne_noMapping := by
      intro s p h
      split at h
      · exact Option.some.inj h ▸ hblock
      · simp at h
    pool_fresh := by
      intro s p h
      split at h
      · next hfresh => exact Option.some.inj h ▸ hfresh
      · simp at h }

/-- Two devices that reach 32 KB, and two bytes at `0xF000`. -/
def twoDevices : DmaSystem Bool :=
  ⟨fun x => if x = 0xF000 then 0xAA else 0, fun p => p == 0 || p == 15, fun _ => [],
    fun _ => true⟩

def twoDevicesView : DmaView Bool :=
  ⟨fun x => if x = 0xF000 then 0xAA else 0, {page | page = 15}, fun _ _ => none⟩

theorem blockOne_ne : (1 : DmaMapping) ≠ 0 ∧ (1 : DmaMapping) ≠ NO_MAPPING := by decide

theorem blockTwo_ne : (2 : DmaMapping) ≠ 0 ∧ (2 : DmaMapping) ≠ NO_MAPPING := by decide

/-- One device reads a byte that the processor changes meanwhile; the other writes the next. -/
def twoDevicesSession : List (DmaCall Bool) :=
  [.map true (oneBlock 1 blockOne_ne) .busMasterRead 0xF000 none 1,
    .map false (oneBlock 2 blockTwo_ne) .busMasterWrite 0xF001 none 1,
    .direct 0xF000 [.write 0 0xBB],
    .mapped true 1 0x1000 [.read 0],
    .mapped false 2 0x2000 [.write 0 0x55],
    .unmap false 2]

theorem twoDevicesSession_allowed :
    Session.Along (DmaSystem.watched fun _ => device32K)
      (fun c p => p.2.Allows c ∧ p.1.FreshBlock c) twoDevicesSession
      (twoDevices, twoDevicesView) := by
  refine ⟨⟨⟨by decide, fun i hi => ?_⟩, fun p _ d m hm => ?_⟩,
    ⟨⟨by decide, fun i hi => ?_⟩, fun p hp => ?_⟩, ⟨?_, trivial⟩, ⟨⟨_, rfl, rfl, ?_⟩, trivial⟩,
    ⟨⟨_, rfl, rfl, ?_⟩, trivial⟩, ⟨trivial, trivial⟩, trivial⟩
  · obtain rfl : i = 0 := Nat.lt_one_iff.mp hi
    rfl
  · exact absurd hm List.not_mem_nil
  · obtain rfl : i = 0 := Nat.lt_one_iff.mp hi
    rfl
  · obtain rfl : 2 = p := Option.some.inj hp
    decide
  · intro a ha
    obtain rfl := List.mem_singleton.mp ha
    rfl
  · intro a ha
    obtain rfl := List.mem_singleton.mp ha
    decide
  · intro a ha
    obtain rfl := List.mem_singleton.mp ha
    decide

theorem owned_twoDevices (page : Nat) (hpage : page ∈ twoDevicesView.owned) :
    twoDevices.pageUsed page = true := by
  obtain rfl : page = 15 := hpage
  rfl

theorem twoDevicesSession_refines :
    let left := (Session.run (DmaSystem.watched fun _ => device32K) twoDevicesSession
      (twoDevices, twoDevicesView)).2
    left.1.memory 0xF000 = 0xBB ∧ left.1.memory 0xF001 = 0x55 := by
  have h := dmaSession_refines (fun _ => device32K) twoDevicesSession twoDevices twoDevicesView
    (shows_unmappedSystem (fun _ => rfl) (fun _ _ => rfl) owned_twoDevices (fun _ _ => rfl))
    twoDevicesSession_allowed
  exact ⟨(h.2.memory 0xF000 rfl).trans rfl, (h.2.memory 0xF001 rfl).trans rfl⟩

end FdtBusPkg
