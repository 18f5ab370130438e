import FdtBusPkg.DtBus.Create
import FdtBusPkg.Pci.EcamLib

/-!
The producer of the PCI PCDs is a library that any module may link. Each copy finds the node
when its module is loaded, or else waits for handles to be installed; the copies share nothing
but the PCDs. Here they run in any order, with handles that come and go.
-/
namespace FdtBusPkg

/-- A handle with the devicetree I/O protocol, as `ProcessHandle` looks at it. -/
structure EcamCandidate where
  isCompatible : EfiStatus
  deviceStatus : EfiDtStatus
  node : PciHostNode

/-- `ProcessHandle` once it has the protocol. -/
def EcamCandidate.process (candidate : EcamCandidate) : EfiResult PciPcds := do
  candidate.isCompatible
  if candidate.deviceStatus ≠ .okay then
    throw .unsupported
  processHandle candidate.node

structure PcdDatabase where
  pciExpressBaseAddress : U64
  pciDisableBusEnumeration : Bool
  pciIoTranslation : U64
  deriving DecidableEq, Repr

namespace PcdDatabase

/-- The base is no longer the default `MAX_UINT64`. -/
def published (pcds : PcdDatabase) : Bool := pcds.pciExpressBaseAddress ≠ MAX_UINT64

/-- The translation keeps its value where the node has none. -/
def set (pcds : PcdDatabase) (found : PciPcds) : PcdDatabase where
  pciExpressBaseAddress := found.pciExpressBaseAddress
  pciDisableBusEnumeration := found.pciDisableBusEnumeration
  pciIoTranslation := found.pciIoTranslation.getD pcds.pciIoTranslation

end PcdDatabase

/-- `mDtIoEvent` with its registration: the handles that `LocateHandle` has yet to return. -/
structure DtIoEvent where
  isOpen : Bool
  signaled : Bool
  notifications : List EfiHandle
  deriving DecidableEq, Repr

namespace DtIoEvent

/-- `CreateEvent` and `RegisterProtocolNotify`. -/
def create : DtIoEvent := ⟨true, false, []⟩

def notify (handle : EfiHandle) (e : DtIoEvent) : DtIoEvent :=
  if e.isOpen then ⟨true, true, e.notifications ++ [handle]⟩ else e

def forget (handle : EfiHandle) (e : DtIoEvent) : DtIoEvent :=
  { e with notifications := e.notifications.erase handle }

end DtIoEvent

/-- The PCDs, the handles with the protocol in order of installation, and the copies of the
library. -/
structure PcdProducers (ι : Type) where
  pcds : PcdDatabase
  installed : List EfiHandle
  loaded : ι → Bool
  mDtIoEvent : ι → Option DtIoEvent

inductive ProducerCall (ι : Type)
  | install (handle : EfiHandle)
  | uninstall (handle : EfiHandle)
  | load (m : ι) (outOfResources : Bool)
  /-- The notification of the event, if it is signaled. -/
  | dispatch (m : ι)
  | unload (m : ι)

/-- The end of a walk over handles: the first that `ProcessHandle` accepts. -/
def firstProcessed (process : EfiHandle → EfiResult PciPcds) (handles : List EfiHandle) :
    Option PciPcds :=
  handles.findSome? fun handle => (process handle).toOption

/-- The loop of `OnDtIoInstall`, with the handles it leaves. -/
def drain (process : EfiHandle → EfiResult PciPcds) :
    List EfiHandle → Option PciPcds × List EfiHandle
  | [] => (none, [])
  | handle :: rest =>
    match process handle with
    | .ok pcds => (some pcds, rest)
    | .error _ => drain process rest

def onDtIoInstall (process : EfiHandle → EfiResult PciPcds) (pcds : PcdDatabase)
    (e : DtIoEvent) : PcdDatabase × DtIoEvent :=
  if pcds.published then
    (pcds, ⟨false, false, e.notifications⟩)
  else
    match drain process e.notifications with
    | (some found, rest) => (pcds.set found, ⟨false, false, rest⟩)
    | (none, rest) => (pcds, ⟨e.isOpen, false, rest⟩)

namespace PcdProducers

variable {ι : Type} [DecidableEq ι]

section Calls

variable (devices : EfiHandle → EcamCandidate) (locate : List EfiHandle → List EfiHandle)

/-- `ProcessHandle`. -/
def processHandle (s : PcdProducers ι) (handle : EfiHandle) : EfiResult PciPcds :=
  if handle ∈ s.installed then (devices handle).process else .error .unsupported

/-- `FdtPciPcdProducerLibConstructor`; `LocateHandleBuffer` gives the handles with the protocol
in an order of its own. -/
def constructor (outOfResources : Bool) (s : PcdProducers ι) :
    EfiStatus × PcdDatabase × Option DtIoEvent :=
  if s.pcds.published then
    (.ok (), s.pcds, none)
  else if outOfResources then
    (.error .outOfResources, s.pcds, none)
  else if s.installed = [] then
    (.ok (), s.pcds, some .create)
  else
    match firstProcessed (s.processHandle devices) (locate s.installed) with
    | some found => (.ok (), s.pcds.set found, none)
    | none => (.error .notFound, s.pcds, none)

def install (handle : EfiHandle) (s : PcdProducers ι) : PcdProducers ι :=
  if handle ∈ s.installed then
    s
  else
    { s with
      installed := s.installed ++ [handle]
      mDtIoEvent := fun m => (s.mDtIoEvent m).map (·.notify handle) }

def uninstall (handle : EfiHandle) (s : PcdProducers ι) : PcdProducers ι :=
  { s with
    installed := s.installed.erase handle
    mDtIoEvent := fun m => (s.mDtIoEvent m).map (·.forget handle) }

def load (m : ι) (outOfResources : Bool) (s : PcdProducers ι) : PcdProducers ι :=
  if s.loaded m then
    s
  else
    let result := s.constructor devices locate outOfResources
    { s with
      pcds := result.2.1
      loaded := Function.update s.loaded m true
      mDtIoEvent := Function.update s.mDtIoEvent m result.2.2 }

def dispatch (m : ι) (s : PcdProducers ι) : PcdProducers ι :=
  match s.mDtIoEvent m with
  | none => s
  | some e =>
    if e.isOpen && e.signaled then
      let result := onDtIoInstall (s.processHandle devices) s.pcds e
      { s with
        pcds := result.1
        mDtIoEvent := Function.update s.mDtIoEvent m (some result.2) }
    else
      s

/-- `FdtPciPcdProducerLibDestructor` closes the event. -/
def unload (m : ι) (s : PcdProducers ι) : PcdProducers ι :=
  { s with
    loaded := Function.update s.loaded m false
    mDtIoEvent := Function.update s.mDtIoEvent m none }

def step (s : PcdProducers ι) : ProducerCall ι → PcdProducers ι
  | .install handle => s.install handle
  | .uninstall handle => s.uninstall handle
  | .load m outOfResources => s.load devices locate m outOfResources
  | .dispatch m => s.dispatch devices m
  | .unload m => s.unload m

def initial (ι : Type) (pcds : PcdDatabase) : PcdProducers ι :=
  ⟨pcds, [], fun _ => false, fun _ => none⟩

def run (pcds : PcdDatabase) (calls : List (ProducerCall ι)) : PcdProducers ι :=
  calls.foldl (step devices locate) (initial ι pcds)

end Calls

end PcdProducers

section Walks

variable (process : EfiHandle → EfiResult PciPcds)

theorem fst_drain (handles : List EfiHandle) :
    (drain process handles).1 = firstProcessed process handles := by
  induction handles with
  | nil => rfl
  | cons handle rest ih =>
      rw [firstProcessed, List.findSome?_cons, drain]
      cases hprocess : process handle with
      | ok pcds => rfl
      | error e => exact ih

theorem snd_drain_of_none (handles : List EfiHandle) (h : (drain process handles).1 = none) :
    (drain process handles).2 = [] := by
  induction handles with
  | nil => rfl
  | cons handle rest ih =>
      rw [drain] at h ⊢
      cases hprocess : process handle with
      | ok pcds => simp [hprocess] at h
      | error e =>
          simp only [hprocess] at h ⊢
          exact ih h

theorem firstProcessed_eq_none_iff (handles : List EfiHandle) :
    firstProcessed process handles = none ↔
      ∀ handle ∈ handles, ¬ ∃ pcds, process handle = .ok pcds := by
  rw [firstProcessed, List.findSome?_eq_none_iff]
  refine forall₂_congr fun handle _ => ?_
  cases process handle <;> simp [Except.toOption]

theorem exists_of_firstProcessed {handles : List EfiHandle} {pcds : PciPcds}
    (h : firstProcessed process handles = some pcds) :
    ∃ handle ∈ handles, process handle = .ok pcds := by
  obtain ⟨handle, hmem, hprocess⟩ := List.exists_of_findSome?_eq_some h
  refine ⟨handle, hmem, ?_⟩
  cases hresult : process handle with
  | ok found =>
      rw [hresult] at hprocess
      exact congrArg Except.ok (Option.some.inj hprocess)
  | error e =>
      rw [hresult] at hprocess
      cases hprocess

theorem firstProcessed_congr {process process' : EfiHandle → EfiResult PciPcds}
    {handles : List EfiHandle} (h : ∀ handle ∈ handles, process handle = process' handle) :
    firstProcessed process handles = firstProcessed process' handles := by
  induction handles with
  | nil => rfl
  | cons handle rest ih =>
      have hrest := ih fun other hmem => h other (List.mem_cons_of_mem _ hmem)
      rw [firstProcessed] at hrest ⊢
      rw [List.findSome?_cons, h handle List.mem_cons_self, hrest, firstProcessed, firstProcessed,
        List.findSome?_cons]

end Walks

namespace PcdProducers

variable {ι : Type} (devices : EfiHandle → EcamCandidate)

theorem processHandle_of_mem {s : PcdProducers ι} {handle : EfiHandle} (h : handle ∈ s.installed) :
    s.processHandle devices handle = (devices handle).process := if_pos h

theorem published_set {pcds : PcdDatabase} {found : PciPcds}
    (h : found.pciExpressBaseAddress ≠ MAX_UINT64) : (pcds.set found).published = true :=
  decide_eq_true h

section Kept

variable (locate : List EfiHandle → List EfiHandle)

theorem constructor_of_published {s : PcdProducers ι} (h : s.pcds.published = true)
    (outOfResources : Bool) :
    s.constructor devices locate outOfResources = (.ok (), s.pcds, none) :=
  if_pos h

/-- What a constructor leaves: the PCDs of an installed handle, an event where there is no
handle, or nothing. -/
inductive Constructed (s : PcdProducers ι) : PcdDatabase → Option DtIoEvent → Prop
  | nothing : Constructed s s.pcds none
  | waiting (hnone : s.installed = []) : Constructed s s.pcds (some .create)
  | found (hunset : s.pcds.published = false) {found : PciPcds}
      (hfound : firstProcessed (s.processHandle devices) (locate s.installed) = some found) :
      Constructed s (s.pcds.set found) none

theorem constructed (s : PcdProducers ι) (outOfResources : Bool) :
    Constructed devices locate s (s.constructor devices locate outOfResources).2.1
      (s.constructor devices locate outOfResources).2.2 := by
  rw [constructor]
  split_ifs with hpublished hresources hnone
  · exact .nothing
  · exact .nothing
  · exact .waiting hnone
  · split
    · next found hfound => exact .found (Bool.not_eq_true _ ▸ hpublished) hfound
    · exact .nothing

variable [DecidableEq ι]

theorem pcds_step_of_published {s : PcdProducers ι} (h : s.pcds.published = true)
    (call : ProducerCall ι) : (s.step devices locate call).pcds = s.pcds := by
  cases call with
  | install handle =>
      simp only [step, install]
      split <;> rfl
  | uninstall handle => rfl
  | load m outOfResources =>
      simp only [step, load]
      split
      · rfl
      · rw [constructor_of_published devices locate h]
  | dispatch m =>
      simp only [step, dispatch]
      split
      · rfl
      · split
        · rw [onDtIoInstall, if_pos h]
        · rfl
  | unload m => rfl

theorem pcds_foldl_of_published {s : PcdProducers ι} (h : s.pcds.published = true)
    (calls : List (ProducerCall ι)) :
    (calls.foldl (step devices locate) s).pcds = s.pcds := by
  induction calls generalizing s with
  | nil => rfl
  | cons call calls ih =>
      have hstep := pcds_step_of_published devices locate h call
      rw [List.foldl_cons, ih (by rw [hstep]; exact h), hstep]

end Kept

/-- What a notification leaves: a closed event, with the PCDs of a handle unless they were set;
or an event with nothing left to look at. -/
inductive Notified (process : EfiHandle → EfiResult PciPcds) (pcds : PcdDatabase)
    (e : DtIoEvent) : PcdDatabase → DtIoEvent → Prop
  | closed (hset : pcds.published = true) (rest : List EfiHandle) :
      Notified process pcds e pcds ⟨false, false, rest⟩
  | found (hunset : pcds.published = false) {found : PciPcds}
      (hfound : firstProcessed process e.notifications = some found) (rest : List EfiHandle) :
      Notified process pcds e (pcds.set found) ⟨false, false, rest⟩
  | drained (hunset : pcds.published = false)
      (hnone : firstProcessed process e.notifications = none) :
      Notified process pcds e pcds ⟨e.isOpen, false, []⟩

theorem notified (process : EfiHandle → EfiResult PciPcds) (pcds : PcdDatabase) (e : DtIoEvent) :
    Notified process pcds e (onDtIoInstall process pcds e).1 (onDtIoInstall process pcds e).2 := by
  rw [onDtIoInstall]
  split_ifs with hpublished
  · exact .closed hpublished _
  · have hunset := Bool.not_eq_true _ ▸ hpublished
    have hfirst := fst_drain process e.notifications
    split
    · next found rest hdrain =>
        rw [hdrain] at hfirst
        exact .found hunset hfirst.symm rest
    · next rest hdrain =>
        have hrest := snd_drain_of_none process e.notifications (by rw [hdrain])
        rw [hdrain] at hfirst hrest
        rw [show rest = [] from hrest]
        exact .drained hunset hfirst.symm

section Safety

/-- The event waits for every handle that would do, and is signaled if there is any to look
at. -/
structure Waits (installed : List EfiHandle) (e : DtIoEvent) : Prop where
  nodup : e.notifications.Nodup
  listed : ∀ handle ∈ e.notifications, handle ∈ installed
  signaled : e.notifications ≠ [] → e.signaled = true
  missing : ∀ handle ∈ installed, ∀ found, (devices handle).process = .ok found →
    handle ∈ e.notifications

variable {devices} {installed : List EfiHandle} {e : DtIoEvent}

theorem Waits.notify (h : Waits devices installed e) (hopen : e.isOpen = true)
    {handle : EfiHandle} (hnew : handle ∉ installed) :
    Waits devices (installed ++ [handle]) (e.notify handle) := by
  rw [DtIoEvent.notify, if_pos hopen]
  refine ⟨?_, ?_, fun _ => rfl, ?_⟩
  · exact List.Nodup.append h.nodup (List.nodup_singleton _)
      (List.disjoint_singleton.mpr fun hmem => hnew (h.listed _ hmem))
  · intro other hother
    exact (List.mem_append.mp hother).elim
      (fun hmem => List.mem_append_left _ (h.listed _ hmem)) (List.mem_append_right _)
  · intro other hother found hfound
    exact (List.mem_append.mp hother).elim
      (fun hmem => List.mem_append_left _ (h.missing _ hmem _ hfound)) (List.mem_append_right _)

theorem Waits.forget (h : Waits devices installed e) (hnodup : installed.Nodup)
    (handle : EfiHandle) : Waits devices (installed.erase handle) (e.forget handle) := by
  refine ⟨h.nodup.erase _, ?_, ?_, ?_⟩
  · intro other hother
    obtain ⟨hne, hmem⟩ := h.nodup.mem_erase_iff.mp hother
    exact hnodup.mem_erase_iff.mpr ⟨hne, h.listed _ hmem⟩
  · intro hsome
    refine h.signaled fun hnone => hsome ?_
    simp [DtIoEvent.forget, hnone]
  · intro other hother found hfound
    obtain ⟨hne, hmem⟩ := hnodup.mem_erase_iff.mp hother
    exact h.nodup.mem_erase_iff.mpr ⟨hne, h.missing _ hmem _ hfound⟩

theorem waits_create : Waits devices [] .create :=
  ⟨List.nodup_nil, fun _ h => h, fun h => absurd rfl h, fun _ h => absurd h List.not_mem_nil⟩

theorem Waits.not_none (h : Waits devices installed e) {handle : EfiHandle}
    (hmem : handle ∈ installed) {found : PciPcds} (hfound : (devices handle).process = .ok found)
    {process : EfiHandle → EfiResult PciPcds}
    (hprocess : ∀ handle ∈ installed, process handle = (devices handle).process) :
    firstProcessed process e.notifications ≠ none := by
  intro hnone
  refine (firstProcessed_eq_none_iff process _).mp hnone handle (h.missing _ hmem _ hfound) ?_
  exact ⟨found, (hprocess _ hmem).trans hfound⟩

variable (devices) (pcds₀ : PcdDatabase) (Seen : EfiHandle → Prop)

/-- The PCDs have their defaults, or the values of one handle that has been installed; while
they have their defaults, every open event waits. -/
structure Sound (s : PcdProducers ι) : Prop where
  nodup : s.installed.Nodup
  seen : ∀ handle ∈ s.installed, Seen handle
  unset : s.pcds.published = false → s.pcds = pcds₀
  source : s.pcds.published = true → ∃ handle found, Seen handle ∧
    (devices handle).process = .ok found ∧ s.pcds = pcds₀.set found
  waits : s.pcds.published = false → ∀ m e, s.mDtIoEvent m = some e → e.isOpen = true →
    Waits devices s.installed e

variable {devices pcds₀ Seen} {s s' : PcdProducers ι}

theorem Sound.events (h : Sound devices pcds₀ Seen s) (hpcds : s'.pcds = s.pcds)
    (hinstalled : s'.installed = s.installed)
    (hevents : s.pcds.published = false → ∀ m e, s'.mDtIoEvent m = some e → e.isOpen = true →
      s.mDtIoEvent m = some e ∨ Waits devices s.installed e) : Sound devices pcds₀ Seen s' := by
  refine ⟨hinstalled ▸ h.nodup, hinstalled ▸ h.seen, hpcds ▸ h.unset, hpcds ▸ h.source, ?_⟩
  rw [hpcds, hinstalled]
  intro hunset m e he hopen
  exact (hevents hunset m e he hopen).elim (fun hold => h.waits hunset m e hold hopen) id

theorem Sound.publish (h : Sound devices pcds₀ Seen s) (hunset : s.pcds.published = false)
    {handle : EfiHandle} (hmem : handle ∈ s.installed) {found : PciPcds}
    (hfound : (devices handle).process = .ok found)
    (hbase : found.pciExpressBaseAddress ≠ MAX_UINT64) (hpcds : s'.pcds = s.pcds.set found)
    (hinstalled : s'.installed = s.installed) : Sound devices pcds₀ Seen s' := by
  have hset : s'.pcds.published = true := hpcds ▸ published_set hbase
  refine ⟨hinstalled ▸ h.nodup, hinstalled ▸ h.seen, ?_, fun _ => ?_, ?_⟩
  · intro hfalse
    simp [hset] at hfalse
  · exact ⟨handle, found, h.seen _ hmem, hfound, by rw [hpcds, h.unset hunset]⟩
  · intro hfalse
    simp [hset] at hfalse

theorem Sound.install (h : Sound devices pcds₀ Seen s) {handle : EfiHandle} (hseen : Seen handle) :
    Sound devices pcds₀ Seen (s.install handle) := by
  rw [PcdProducers.install]
  split_ifs with hmem
  · exact h
  refine ⟨?_, ?_, h.unset, h.source, ?_⟩
  · exact List.Nodup.append h.nodup (List.nodup_singleton _) (List.disjoint_singleton.mpr hmem)
  · intro other hother
    rcases List.mem_append.mp hother with hold | hnew
    · exact h.seen _ hold
    · rw [List.mem_singleton.mp hnew]
      exact hseen
  · intro hunset m e he hopen
    obtain ⟨e', he', rfl⟩ := Option.map_eq_some_iff.mp he
    have hopen' : e'.isOpen = true := by
      by_contra hclosed
      rw [DtIoEvent.notify, if_neg hclosed] at hopen
      exact hclosed hopen
    exact (h.waits hunset m e' he' hopen').notify hopen' hmem

theorem Sound.uninstall (h : Sound devices pcds₀ Seen s) (handle : EfiHandle) :
    Sound devices pcds₀ Seen (s.uninstall handle) := by
  refine ⟨h.nodup.erase _, fun other hother => h.seen _ (List.mem_of_mem_erase hother), h.unset,
    h.source, ?_⟩
  intro hunset m e he hopen
  obtain ⟨e', he', rfl⟩ := Option.map_eq_some_iff.mp he
  exact (h.waits hunset m e' he' hopen).forget h.nodup handle

theorem sound_initial (hdefault : pcds₀.published = false) :
    Sound devices pcds₀ Seen (initial ι pcds₀) where
  nodup := List.nodup_nil
  seen _ h := absurd h List.not_mem_nil
  unset _ := rfl
  source h := absurd (hdefault.symm.trans h) Bool.false_ne_true
  waits _ _ e he := absurd he (Option.some_ne_none e).symm

variable [DecidableEq ι] {locate : List EfiHandle → List EfiHandle}
  (hlocate : ∀ handles handle, handle ∈ locate handles ↔ handle ∈ handles)
  (hbase : ∀ handle found, (devices handle).process = .ok found →
    found.pciExpressBaseAddress ≠ MAX_UINT64)

include hlocate hbase in
theorem Sound.load (h : Sound devices pcds₀ Seen s) (m : ι) (outOfResources : Bool) :
    Sound devices pcds₀ Seen (s.load devices locate m outOfResources) := by
  rw [PcdProducers.load]
  split_ifs with hloaded
  · exact h
  have hconstructed := constructed devices locate s outOfResources
  generalize s.constructor devices locate outOfResources = result at hconstructed
  obtain ⟨status, pcds, event⟩ := result
  cases hconstructed with
  | nothing =>
      refine h.events rfl rfl fun _ m' e he _ => .inl ?_
      by_cases hm : m' = m
      · subst hm
        simp at he
      · simpa [Function.update_of_ne hm] using he
  | waiting hnone =>
      refine h.events rfl rfl fun _ m' e he _ => ?_
      by_cases hm : m' = m
      · subst hm
        obtain rfl : DtIoEvent.create = e := by simpa using he
        exact .inr (hnone ▸ waits_create)
      · exact .inl (by simpa [Function.update_of_ne hm] using he)
  | found hunset hfound =>
      obtain ⟨handle, hmem, hprocess⟩ := exists_of_firstProcessed _ hfound
      have hinstalled := (hlocate _ _).mp hmem
      rw [processHandle_of_mem devices hinstalled] at hprocess
      exact h.publish hunset hinstalled hprocess (hbase _ _ hprocess) rfl rfl

include hbase in
theorem Sound.dispatch (h : Sound devices pcds₀ Seen s) (m : ι) :
    Sound devices pcds₀ Seen (s.dispatch devices m) := by
  rw [PcdProducers.dispatch]
  split
  · exact h
  next e he =>
  split_ifs with hpending
  · obtain ⟨hopen, -⟩ := Bool.and_eq_true_iff.mp hpending
    have hnotified := notified (s.processHandle devices) s.pcds e
    generalize onDtIoInstall (s.processHandle devices) s.pcds e = result at hnotified
    obtain ⟨pcds, event⟩ := result
    cases hnotified with
    | closed hset rest =>
        refine h.events rfl rfl fun _ m' e' he' hopen' => .inl ?_
        by_cases hm : m' = m
        · subst hm
          obtain rfl : (⟨false, false, rest⟩ : DtIoEvent) = e' := by simpa using he'
          cases hopen'
        · simpa [Function.update_of_ne hm] using he'
    | found hunset hfound rest =>
        obtain ⟨handle, hmem, hprocess⟩ := exists_of_firstProcessed _ hfound
        have hinstalled := (h.waits hunset m e he hopen).listed _ hmem
        rw [processHandle_of_mem devices hinstalled] at hprocess
        exact h.publish hunset hinstalled hprocess (hbase _ _ hprocess) rfl rfl
    | drained hunset hnone =>
        have hwaits := h.waits hunset m e he hopen
        refine h.events rfl rfl fun _ m' e' he' _ => ?_
        by_cases hm : m' = m
        · subst hm
          obtain rfl : (⟨e.isOpen, false, []⟩ : DtIoEvent) = e' := by simpa using he'
          refine .inr ⟨List.nodup_nil, fun _ hnil => absurd hnil List.not_mem_nil,
            fun hsome => absurd rfl hsome, fun handle hinstalled found hfound => ?_⟩
          exact absurd hnone
            (hwaits.not_none hinstalled hfound fun _ => processHandle_of_mem devices)
        · exact .inl (by simpa [Function.update_of_ne hm] using he')
  · exact h

theorem Sound.unload (h : Sound devices pcds₀ Seen s) (m : ι) :
    Sound devices pcds₀ Seen (s.unload m) := by
  refine h.events rfl rfl fun _ m' e he _ => .inl ?_
  by_cases hm : m' = m
  · subst hm
    simp [PcdProducers.unload] at he
  · simpa [PcdProducers.unload, Function.update_of_ne hm] using he

include hlocate hbase in
theorem sound_run (hdefault : pcds₀.published = false) (calls : List (ProducerCall ι)) :
    Sound devices pcds₀ (fun handle => .install handle ∈ calls)
      (run devices locate pcds₀ calls) := by
  rw [run]
  refine List.foldlRecOn calls _ (sound_initial hdefault) fun s h call hcall => ?_
  cases call with
  | install handle => exact h.install hcall
  | uninstall handle => exact h.uninstall handle
  | load m outOfResources => exact h.load hlocate hbase m outOfResources
  | dispatch m => exact h.dispatch hbase m
  | unload m => exact h.unload m

/-- A module that waits finds a handle that would do as soon as its notification runs. -/
theorem Sound.published_dispatch (h : Sound devices pcds₀ Seen s) {m : ι} {e : DtIoEvent}
    (he : s.mDtIoEvent m = some e) (hopen : e.isOpen = true) {handle : EfiHandle}
    (hmem : handle ∈ s.installed) {found : PciPcds}
    (hfound : (devices handle).process = .ok found)
    (hbase : ∀ handle found, (devices handle).process = .ok found →
      found.pciExpressBaseAddress ≠ MAX_UINT64) :
    (s.dispatch devices m).pcds.published = true := by
  cases hpublished : s.pcds.published with
  | true =>
      rw [← hpublished]
      exact congrArg PcdDatabase.published
        (pcds_step_of_published devices id hpublished (.dispatch m))
  | false =>
      have hwaits := h.waits hpublished m e he hopen
      have hnotify := hwaits.missing _ hmem _ hfound
      have hsignaled := hwaits.signaled (List.ne_nil_of_mem hnotify)
      rw [PcdProducers.dispatch, he]
      simp only [hopen, hsignaled, Bool.and_self, if_true]
      have hnotified := notified (s.processHandle devices) s.pcds e
      generalize onDtIoInstall (s.processHandle devices) s.pcds e = result at hnotified
      obtain ⟨pcds, event⟩ := result
      cases hnotified with
      | closed hset rest => exact hset
      | found hunset hfirst rest =>
          obtain ⟨other, hother, hprocess⟩ := exists_of_firstProcessed _ hfirst
          rw [processHandle_of_mem devices (hwaits.listed _ hother)] at hprocess
          exact published_set (hbase _ _ hprocess)
      | drained hunset hnone =>
          exact absurd hnone (hwaits.not_none hmem hfound fun _ => processHandle_of_mem devices)

end Safety

/-- Modules are loaded, notified and unloaded in any order while handles come and go. The PCDs
keep their defaults or are those of one handle that has been installed; once set they stay; and
no module that waits has missed a handle that would do. -/
theorem producerRun_safe [DecidableEq ι] (locate : List EfiHandle → List EfiHandle)
    (hlocate : ∀ handles handle, handle ∈ locate handles ↔ handle ∈ handles)
    (hbase : ∀ handle found, (devices handle).process = .ok found →
      found.pciExpressBaseAddress ≠ MAX_UINT64)
    (pcds₀ : PcdDatabase) (hdefault : pcds₀.published = false) (calls : List (ProducerCall ι)) :
    let s := run devices locate pcds₀ calls
    (s.pcds = pcds₀ ∨ ∃ handle found, .install handle ∈ calls ∧
      (devices handle).process = .ok found ∧ s.pcds = pcds₀.set found) ∧
    (s.pcds.published = true → ∀ more, (run devices locate pcds₀ (calls ++ more)).pcds = s.pcds) ∧
    ∀ m e handle found, s.mDtIoEvent m = some e → e.isOpen = true → handle ∈ s.installed →
      (devices handle).process = .ok found → (s.dispatch devices m).pcds.published = true := by
  intro s
  have hsound := sound_run hlocate hbase hdefault calls
  refine ⟨?_, ?_, ?_⟩
  · cases hpublished : s.pcds.published with
    | true => exact .inr (hsound.source hpublished)
    | false => exact .inl (hsound.unset hpublished)
  · intro hpublished more
    rw [run, List.foldl_append]
    exact pcds_foldl_of_published devices locate hpublished more
  · intro m e handle found he hopen hmem hfound
    exact hsound.published_dispatch he hopen hmem hfound hbase

/-- Handle 1 is no ECAM node; the others are. -/
def oneOtherDevice (handle : EfiHandle) : EcamCandidate :=
  ⟨if handle = 1 then .error .notFound else .ok (), .okay, busesOnlyNode⟩

theorem base_of_oneOtherDevice (handle : EfiHandle) (found : PciPcds)
    (h : (oneOtherDevice handle).process = .ok found) :
    found.pciExpressBaseAddress ≠ MAX_UINT64 := by
  by_cases hone : handle = 1
  · subst hone
    cases h
  · rw [oneOtherDevice, if_neg hone] at h
    cases h
    decide

def defaultPcds : PcdDatabase := ⟨MAX_UINT64, true, 0⟩

/-- One module waits from before the first handle, one is loaded too early to find a node. -/
def lateCalls : List (ProducerCall Bool) :=
  [.load false false, .install 1, .load true false, .uninstall 1, .install 2]

theorem lateCalls_safe :
    (run oneOtherDevice List.reverse defaultPcds (lateCalls ++ [.dispatch false])).pcds =
        ⟨0x40000000, false, 0⟩ ∧
      (∀ more, (run oneOtherDevice List.reverse defaultPcds
        (lateCalls ++ [.dispatch false] ++ more)).pcds = ⟨0x40000000, false, 0⟩) ∧
      ((run oneOtherDevice List.reverse defaultPcds lateCalls).dispatch oneOtherDevice
        false).pcds.published = true := by
  have hafter := producerRun_safe oneOtherDevice List.reverse (fun _ _ => List.mem_reverse)
    base_of_oneOtherDevice defaultPcds rfl (lateCalls ++ [.dispatch false])
  have hbefore := producerRun_safe oneOtherDevice List.reverse (fun _ _ => List.mem_reverse)
    base_of_oneOtherDevice defaultPcds rfl lateCalls
  have hset : (run oneOtherDevice List.reverse defaultPcds
      (lateCalls ++ [.dispatch false])).pcds = ⟨0x40000000, false, 0⟩ := by decide
  refine ⟨hset, fun more => ?_, ?_⟩
  · rw [hafter.2.1 (by rw [hset]; decide), hset]
  · exact hbefore.2.2 false ⟨true, true, [2]⟩ 2 ⟨0x40000000, false, none⟩ rfl rfl
      (by decide) rfl

section Order

/-- The handles in the order of installation. -/
def installs : List (ProducerCall ι) → List EfiHandle
  | [] => []
  | .install handle :: calls => handle :: installs calls
  | _ :: calls => installs calls

theorem installs_append (calls more : List (ProducerCall ι)) :
    installs (calls ++ more) = installs calls ++ installs more := by
  induction calls with
  | nil => rfl
  | cons call calls ih => cases call <;> simp [installs, ih]

abbrev accepted (handles : List EfiHandle) : Option PciPcds :=
  firstProcessed (fun handle => (devices handle).process) handles

theorem accepted_append (handles more : List EfiHandle) :
    accepted devices (handles ++ more) = (accepted devices handles).or (accepted devices more) :=
  List.findSome?_append

theorem accepted_append_of_mem {handles : List EfiHandle} {handle : EfiHandle}
    (h : handle ∈ handles) :
    accepted devices (handles ++ [handle]) = accepted devices handles := by
  rw [accepted_append]
  cases hnone : accepted devices handles with
  | some found => rfl
  | none =>
      rw [Option.none_or, firstProcessed_eq_none_iff]
      intro other hother
      rw [List.mem_singleton.mp hother]
      exact (firstProcessed_eq_none_iff _ _).mp hnone handle h

theorem firstProcessed_processHandle (s : PcdProducers ι) {handles : List EfiHandle}
    (h : ∀ handle ∈ handles, handle ∈ s.installed) :
    firstProcessed (s.processHandle devices) handles = accepted devices handles :=
  firstProcessed_congr fun handle hmem => processHandle_of_mem devices (h handle hmem)

variable (pcds₀ : PcdDatabase)

/-- The PCDs are those of the first handle that would do; while there are none, an open event
has every handle still to look at from some place in the order on. -/
structure InOrder (s : PcdProducers ι) : Prop where
  unset : s.pcds.published = false → s.pcds = pcds₀
  first : s.pcds.published = true → ∃ found, accepted devices s.installed = some found ∧
    s.pcds = pcds₀.set found
  rest : s.pcds.published = false → ∀ m e, s.mDtIoEvent m = some e → e.isOpen = true →
    ∃ refused, s.installed = refused ++ e.notifications ∧ accepted devices refused = none

variable {devices pcds₀} {s s' : PcdProducers ι}

theorem InOrder.events (h : InOrder devices pcds₀ s) (hpcds : s'.pcds = s.pcds)
    (hinstalled : s'.installed = s.installed)
    (hevents : s.pcds.published = false → ∀ m e, s'.mDtIoEvent m = some e → e.isOpen = true →
      s.mDtIoEvent m = some e ∨
        ∃ refused, s.installed = refused ++ e.notifications ∧ accepted devices refused = none) :
    InOrder devices pcds₀ s' := by
  refine ⟨hpcds ▸ h.unset, ?_, ?_⟩
  · rw [hpcds, hinstalled]
    exact h.first
  · rw [hpcds, hinstalled]
    intro hunset m e he hopen
    exact (hevents hunset m e he hopen).elim (fun hold => h.rest hunset m e hold hopen) id

theorem InOrder.publish (h : InOrder devices pcds₀ s) (hunset : s.pcds.published = false)
    {found : PciPcds} (hfound : accepted devices s.installed = some found)
    (hbase : found.pciExpressBaseAddress ≠ MAX_UINT64) (hpcds : s'.pcds = s.pcds.set found)
    (hinstalled : s'.installed = s.installed) : InOrder devices pcds₀ s' := by
  have hset : s'.pcds.published = true := hpcds ▸ published_set hbase
  refine ⟨fun hfalse => ?_, fun _ => ⟨found, hinstalled ▸ hfound, ?_⟩, fun hfalse => ?_⟩
  · simp [hset] at hfalse
  · rw [hpcds, h.unset hunset]
  · simp [hset] at hfalse

theorem InOrder.install (h : InOrder devices pcds₀ s) (handle : EfiHandle) :
    InOrder devices pcds₀ (s.install handle) := by
  rw [PcdProducers.install]
  split_ifs with hmem
  · exact h
  refine ⟨h.unset, fun hset => ?_, fun hunset m e he hopen => ?_⟩
  · obtain ⟨found, hfound, hpcds⟩ := h.first hset
    refine ⟨found, ?_, hpcds⟩
    rw [accepted_append, hfound, Option.some_or]
  · obtain ⟨e', he', rfl⟩ := Option.map_eq_some_iff.mp he
    rw [DtIoEvent.notify] at hopen ⊢
    split_ifs at hopen ⊢ with hopen'
    · obtain ⟨refused, hrefused, hnone⟩ := h.rest hunset m e' he' hopen'
      exact ⟨refused, by rw [hrefused, List.append_assoc], hnone⟩
    · exact absurd hopen hopen'

variable [DecidableEq ι] (hbase : ∀ handle found, (devices handle).process = .ok found →
  found.pciExpressBaseAddress ≠ MAX_UINT64)

include hbase in
theorem base_of_accepted {handles : List EfiHandle} {found : PciPcds}
    (h : accepted devices handles = some found) : found.pciExpressBaseAddress ≠ MAX_UINT64 := by
  obtain ⟨handle, -, hprocess⟩ := exists_of_firstProcessed _ h
  exact hbase handle found hprocess

include hbase in
theorem InOrder.load (h : InOrder devices pcds₀ s) (m : ι) (outOfResources : Bool) :
    InOrder devices pcds₀ (s.load devices id m outOfResources) := by
  rw [PcdProducers.load]
  split_ifs with hloaded
  · exact h
  have hconstructed := constructed devices id s outOfResources
  generalize s.constructor devices id outOfResources = result at hconstructed
  obtain ⟨status, pcds, event⟩ := result
  cases hconstructed with
  | nothing =>
      refine h.events rfl rfl fun _ m' e he _ => .inl ?_
      by_cases hm : m' = m
      · subst hm
        simp at he
      · simpa [Function.update_of_ne hm] using he
  | waiting hnone =>
      refine h.events rfl rfl fun _ m' e he _ => ?_
      by_cases hm : m' = m
      · subst hm
        obtain rfl : DtIoEvent.create = e := by simpa using he
        exact .inr ⟨[], hnone, rfl⟩
      · exact .inl (by simpa [Function.update_of_ne hm] using he)
  | found hunset hfound =>
      rw [id, firstProcessed_processHandle devices s fun _ hmem => hmem] at hfound
      exact h.publish hunset hfound (base_of_accepted hbase hfound) rfl rfl

include hbase in
theorem InOrder.dispatch (h : InOrder devices pcds₀ s) (m : ι) :
    InOrder devices pcds₀ (s.dispatch devices m) := by
  rw [PcdProducers.dispatch]
  split
  · exact h
  next e he =>
  split_ifs with hpending
  · obtain ⟨hopen, -⟩ := Bool.and_eq_true_iff.mp hpending
    have hnotified := notified (s.processHandle devices) s.pcds e
    generalize onDtIoInstall (s.processHandle devices) s.pcds e = result at hnotified
    obtain ⟨pcds, event⟩ := result
    have hlooked (hunset : s.pcds.published = false) :
        accepted devices s.installed =
          firstProcessed (s.processHandle devices) e.notifications := by
      obtain ⟨refused, hrefused, hnone⟩ := h.rest hunset m e he hopen
      rw [firstProcessed_processHandle devices s fun handle hmem =>
        hrefused ▸ List.mem_append_right _ hmem, hrefused, accepted_append, hnone, Option.none_or]
    cases hnotified with
    | closed hset rest =>
        refine h.events rfl rfl fun hunset => ?_
        simp [hset] at hunset
    | found hunset hfound rest =>
        have hfirst := (hlooked hunset).trans hfound
        exact h.publish hunset hfirst (base_of_accepted hbase hfirst) rfl rfl
    | drained hunset hnone =>
        refine h.events rfl rfl fun _ m' e' he' _ => ?_
        by_cases hm : m' = m
        · subst hm
          obtain rfl : (⟨e.isOpen, false, []⟩ : DtIoEvent) = e' := by simpa using he'
          exact .inr ⟨s.installed, (List.append_nil _).symm, (hlooked hunset).trans hnone⟩
        · exact .inl (by simpa [Function.update_of_ne hm] using he')
  · exact h

theorem InOrder.unload (h : InOrder devices pcds₀ s) (m : ι) :
    InOrder devices pcds₀ (s.unload m) := by
  refine h.events rfl rfl fun _ m' e he _ => .inl ?_
  by_cases hm : m' = m
  · subst hm
    simp [PcdProducers.unload] at he
  · simpa [PcdProducers.unload, Function.update_of_ne hm] using he

include hbase in
theorem InOrder.step (h : InOrder devices pcds₀ s) (call : ProducerCall ι)
    (hkept : ∀ handle, call ≠ .uninstall handle) :
    InOrder devices pcds₀ (s.step devices id call) := by
  cases call with
  | install handle => exact h.install handle
  | uninstall handle => exact absurd rfl (hkept handle)
  | load m outOfResources => exact h.load hbase m outOfResources
  | dispatch m => exact h.dispatch hbase m
  | unload m => exact h.unload m

variable (devices) in
theorem installed_step (s : PcdProducers ι) (call : ProducerCall ι)
    (hkept : ∀ handle, call ≠ .uninstall handle) :
    (s.step devices id call).installed =
      match call with
      | .install handle =>
        if handle ∈ s.installed then s.installed else s.installed ++ [handle]
      | _ => s.installed := by
  cases call with
  | install handle =>
      simp only [PcdProducers.step, PcdProducers.install]
      split <;> rfl
  | uninstall handle => exact absurd rfl (hkept handle)
  | load m outOfResources =>
      simp only [PcdProducers.step, PcdProducers.load]
      split <;> rfl
  | dispatch m =>
      simp only [PcdProducers.step, PcdProducers.dispatch]
      split
      · rfl
      · split <;> rfl
  | unload m => rfl

variable (devices pcds₀) in
theorem installed_run (calls : List (ProducerCall ι))
    (hkept : ∀ handle, .uninstall handle ∉ calls) :
    (∀ handle, handle ∈ (run devices id pcds₀ calls).installed ↔ handle ∈ installs calls) ∧
      accepted devices (run devices id pcds₀ calls).installed =
        accepted devices (installs calls) := by
  induction calls using List.reverseRecOn with
  | nil => exact ⟨fun _ => Iff.rfl, rfl⟩
  | append_singleton calls call ih =>
      obtain ⟨hmem, haccepted⟩ := ih fun handle h => hkept handle (List.mem_append_left _ h)
      have hcall : ∀ handle, call ≠ .uninstall handle := by
        rintro handle rfl
        exact hkept handle (List.mem_append_right _ (List.mem_singleton_self _))
      have hstep := installed_step devices (run devices id pcds₀ calls) call hcall
      rw [run, List.foldl_append, List.foldl_cons, List.foldl_nil, ← run, hstep, installs_append]
      cases call with
      | install handle =>
          simp only [installs]
          split_ifs with hold
          · refine ⟨fun other => ?_, ?_⟩
            · rw [hmem, List.mem_append, List.mem_singleton]
              refine ⟨Or.inl, fun h => h.elim id ?_⟩
              rintro rfl
              exact (hmem _).mp hold
            · rw [accepted_append_of_mem devices ((hmem _).mp hold), haccepted]
          · refine ⟨fun other => ?_, ?_⟩
            · rw [List.mem_append, List.mem_append, hmem]
            · rw [accepted_append, accepted_append, haccepted]
      | uninstall handle => exact absurd rfl (hcall handle)
      | load m outOfResources | dispatch m | unload m =>
          simpa [installs] using ⟨hmem, haccepted⟩

end Order

/-- With handles kept, and located in the order of installation, what the PCDs become depends
on that order alone, not on the modules or on when they run. -/
theorem producerRun_first [DecidableEq ι]
    (hbase : ∀ handle found, (devices handle).process = .ok found →
      found.pciExpressBaseAddress ≠ MAX_UINT64)
    (pcds₀ : PcdDatabase) (hdefault : pcds₀.published = false) (calls : List (ProducerCall ι))
    (hkept : ∀ handle, .uninstall handle ∉ calls) :
    (run devices id pcds₀ calls).pcds = pcds₀ ∨
      ∃ found, accepted devices (installs calls) = some found ∧
        (run devices id pcds₀ calls).pcds = pcds₀.set found := by
  have hinitial : InOrder devices pcds₀ (initial ι pcds₀) :=
    ⟨fun _ => rfl, fun h => absurd (hdefault.symm.trans h) Bool.false_ne_true,
      fun _ _ e he => absurd he (Option.some_ne_none e).symm⟩
  have horder : InOrder devices pcds₀ (run devices id pcds₀ calls) :=
    List.foldlRecOn calls _ hinitial fun s h call hcall =>
      h.step hbase call fun handle heq => hkept handle (heq ▸ hcall)
  cases hpublished : (run devices id pcds₀ calls).pcds.published with
  | true =>
      rw [← (installed_run devices pcds₀ calls hkept).2]
      exact .inr (horder.first hpublished)
  | false => exact .inl (horder.unset hpublished)

theorem keptHandles_first :
    (run oneOtherDevice id defaultPcds
      [.load true false, .install 1, .install 3, .load false false, .install 2,
        .dispatch true]).pcds = ⟨0x40000000, false, 0⟩ := by
  have hfirst := producerRun_first oneOtherDevice base_of_oneOtherDevice defaultPcds rfl
    [.load true false, .install 1, .install 3, .load false false, .install 2, .dispatch true]
    (by simp)
  rcases hfirst with hdefault | ⟨found, hfound, hpcds⟩
  · exact absurd hdefault (by decide)
  · obtain rfl : (⟨0x40000000, false, none⟩ : PciPcds) = found := Option.some.inj hfound
    exact hpcds

end PcdProducers

end FdtBusPkg
