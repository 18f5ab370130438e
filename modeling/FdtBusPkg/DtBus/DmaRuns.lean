import FdtBusPkg.Library.KeyedList
import FdtBusPkg.DtBus.Dma

/-!
DMA bookkeeping over runs: any number of devices, and Map, Unmap and removal
requests on them in any order. The mappings that are live are read off the
results alone and compared with the `Maps` lists and with the pages in use.
-/
namespace FdtBusPkg

/-- `DtDeviceRemove`, over what `OpenProtocol` returns for the device and what
`DtDeviceUnregister` and `DtDeviceCleanup` do. -/
def dtDeviceRemove {σ : Type} (openProtocol : EfiStatus) (mapsEmpty : Bool)
    (unregister : σ → EfiStatus × σ) (cleanup : σ → σ) (s : σ) : EfiStatus × σ :=
  match openProtocol with
  | .error e => (.error e, s)
  | .ok _ =>
    if !mapsEmpty then
      (.error .accessDenied, s)
    else
      match unregister s with
      | (.error e, s) => (.error e, s)
      | (.ok _, s) => (.ok (), cleanup s)

/-- The devices with their `Maps` lists over the memory they share. -/
structure DmaSystem (ι : Type) where
  memory : Nat → U8
  pageUsed : Nat → Bool
  maps : ι → List MapInfo
  registered : ι → Bool

inductive DmaEvent (ι : Type)
  | map (d : ι) (result : EfiResult (DtBusAddress × DmaMapping))
  | unmap (d : ι) (mapping : DmaMapping) (status : EfiStatus)
  | remove (d : ι) (status : EfiStatus)

def MapInfo.Covers (m : MapInfo) (page : Nat) : Prop :=
  m.mappedHostAddress.toNat / 4096 ≤ page ∧
    page < m.mappedHostAddress.toNat / 4096 + m.numberOfPages.toNat

section Calls

variable (bs : BootServices) (device : DtDevice) (s : DmaState)

/-- What a bounce buffer adds to the state. -/
structure BounceMade (info : MapInfo) (s' : DmaState) : Prop where
  pool : bs.allocatePool s = some info.self
  pages : ∃ limit, bs.allocatePages s EfiBootServicesData limit info.numberOfPages =
    .ok info.mappedHostAddress
  maps_eq : s'.maps = s.maps ++ [info]
  pageUsed_eq : s'.pageUsed =
    (s.takePages info.mappedHostAddress info.numberOfPages).pageUsed

theorem dtIoMapBounce_cases (operation : DmaOperation) (hostAddress limit : U64)
    (numberOfBytes : Uintn) :
    (∃ e, dtIoMapBounce bs operation hostAddress limit numberOfBytes s = (.error e, s)) ∨
      ∃ info s', dtIoMapBounce bs operation hostAddress limit numberOfBytes s =
          (.ok (info.mappedHostAddress.setWidth 128, info.self), s') ∧
        BounceMade bs s info s' := by
  rw [dtIoMapBounce]
  cases hpool : bs.allocatePool s with
  | none => exact .inl ⟨_, rfl⟩
  | some self =>
      dsimp only
      cases hpages : bs.allocatePages s EfiBootServicesData limit
          (efiSizeToPages numberOfBytes) with
      | error e => exact .inl ⟨e, rfl⟩
      | ok base =>
          refine .inr ⟨⟨self, operation, numberOfBytes, efiSizeToPages numberOfBytes, hostAddress,
            base⟩, _, rfl, hpool, ⟨limit, hpages⟩, ?_, ?_⟩
          · dsimp only
            split <;> rfl
          · dsimp only
            split <;> rfl

/-- A mapping request fails, maps in place, or makes one bounce buffer. -/
theorem dtIoMap_cases (operation : DmaOperation) (hostAddress : U64) (extra : Option DmaExtra)
    (numberOfBytes : Option Uintn) (outputs : Bool) :
    (∃ e, dtIoMap bs (some device) operation hostAddress extra numberOfBytes outputs s =
        (.error e, s)) ∨
      (∃ address, dtIoMap bs (some device) operation hostAddress extra numberOfBytes outputs s =
        (.ok (address, NO_MAPPING), s)) ∨
      ∃ info s', dtIoMap bs (some device) operation hostAddress extra numberOfBytes outputs s =
          (.ok (info.mappedHostAddress.setWidth 128, info.self), s') ∧
        BounceMade bs s info s' := by
  cases numberOfBytes with
  | none => exact .inl ⟨_, rfl⟩
  | some numberOfBytes =>
      simp only [dtIoMap]
      split
      · exact .inl ⟨_, rfl⟩
      · split
        · exact .inl ⟨_, rfl⟩
        · split
          · exact .inl ⟨_, rfl⟩
          · split
            · exact .inl ⟨_, rfl⟩
            · split
              · split
                · exact .inl ⟨_, rfl⟩
                · obtain he | hmade :=
                    dtIoMapBounce_cases bs s operation hostAddress _ numberOfBytes
                  · exact .inl he
                  · exact .inr (.inr hmade)
              · exact .inr (.inl ⟨_, rfl⟩)

theorem dtIoUnmap_noMapping : dtIoUnmap (some device) NO_MAPPING s = (.ok (), s) := by
  rw [dtIoUnmap]
  rfl

theorem dtIoUnmap_unknown (mapping : DmaMapping) (hnone : mapping ≠ NO_MAPPING)
    (hunknown : mapping ∉ s.maps.map (·.self)) :
    dtIoUnmap (some device) mapping s = (.error .invalidParameter, s) := by
  have hfind : s.maps.find? (fun m => decide (m.self = mapping)) = none := by
    rw [List.find?_eq_none]
    intro m hm hself
    exact hunknown (List.mem_map.mpr ⟨m, hm, of_decide_eq_true hself⟩)
  rw [dtIoUnmap]
  split
  · rfl
  · simp [hfind]

/-- What ending a mapping changes in the list and in the pages in use. -/
structure BounceEnded (info : MapInfo) (s' : DmaState) : Prop where
  maps_eq : s'.maps = s.maps.eraseP (·.self = info.self)
  pageUsed_eq : s'.pageUsed =
    (s.freePages info.mappedHostAddress info.numberOfPages).pageUsed

theorem dtIoUnmap_listed (mapping : DmaMapping) (hzero : mapping ≠ 0) (hnone : mapping ≠ NO_MAPPING)
    (hlisted : mapping ∈ s.maps.map (·.self)) :
    ∃ info ∈ s.maps, info.self = mapping ∧
      ∃ s', dtIoUnmap (some device) mapping s = (.ok (), s') ∧ BounceEnded s info s' := by
  cases hfind : s.maps.find? (fun m => decide (m.self = mapping)) with
  | none =>
      obtain ⟨m, hm, hself⟩ := List.mem_map.mp hlisted
      exact absurd (decide_eq_true hself) (List.find?_eq_none.mp hfind m hm)
  | some info =>
      have hself : info.self = mapping := by simpa using List.find?_some hfind
      refine ⟨info, List.mem_of_find?_eq_some hfind, hself, ?_⟩
      rw [dtIoUnmap, if_neg (by simp [hzero]), if_neg hnone, hfind]
      refine ⟨_, rfl, ?_, ?_⟩
      · rw [hself]
        split <;> rfl
      · split <;> rfl

end Calls

section Runs

variable {ι : Type} [DecidableEq ι]

namespace DmaSystem

/-- The system as the calls on one device see it. -/
def device (σ : DmaSystem ι) (d : ι) : DmaState := ⟨σ.memory, σ.pageUsed, σ.maps d⟩

def withDevice (σ : DmaSystem ι) (d : ι) (s : DmaState) : DmaSystem ι :=
  { σ with memory := s.memory, pageUsed := s.pageUsed, maps := Function.update σ.maps d s.maps }

/-- `DtDeviceCleanup`. -/
def cleanup (σ : DmaSystem ι) (d : ι) : DmaSystem ι :=
  { σ with registered := Function.update σ.registered d false }

/-- A removal request, with what `DtDeviceUnregister` returns if it is reached. -/
def remove (σ : DmaSystem ι) (d : ι) (unregister : EfiStatus) : EfiStatus × DmaSystem ι :=
  dtDeviceRemove (.ok ()) (σ.maps d).isEmpty (fun σ => (unregister, σ)) (fun σ => σ.cleanup d) σ

theorem withDevice_device (σ : DmaSystem ι) (d : ι) : σ.withDevice d (σ.device d) = σ := by
  simp [withDevice, device]

end DmaSystem

/-- One request on a registered device. A pool block that is handed out is in use
for no other mapping of any device. -/
inductive DmaStep (devices : ι → DtDevice) :
    DmaSystem ι → DmaEvent ι → DmaSystem ι → Prop
  | map (σ : DmaSystem ι) (d : ι) (bs : BootServices) (operation : DmaOperation)
      (hostAddress : U64) (extra : Option DmaExtra) (numberOfBytes : Option Uintn)
      (outputs : Bool) (result : EfiResult (DtBusAddress × DmaMapping)) (s : DmaState)
      (hregistered : σ.registered d = true)
      (hfresh : ∀ p, bs.allocatePool (σ.device d) = some p → ∀ d', ∀ m ∈ σ.maps d', m.self ≠ p)
      (hcall : dtIoMap bs (some (devices d)) operation hostAddress extra numberOfBytes outputs
        (σ.device d) = (result, s)) :
      DmaStep devices σ (.map d result) (σ.withDevice d s)
  | unmap (σ : DmaSystem ι) (d : ι) (mapping : DmaMapping) (status : EfiStatus) (s : DmaState)
      (hregistered : σ.registered d = true)
      (hcall : dtIoUnmap (some (devices d)) mapping (σ.device d) = (status, s)) :
      DmaStep devices σ (.unmap d mapping status) (σ.withDevice d s)
  | remove (σ σ' : DmaSystem ι) (d : ι) (unregister status : EfiStatus)
      (hregistered : σ.registered d = true) (hcall : σ.remove d unregister = (status, σ')) :
      DmaStep devices σ (.remove d status) σ'

inductive DmaRun (devices : ι → DtDevice) (init : DmaSystem ι) :
    List (DmaEvent ι) → DmaSystem ι → Prop
  | start : DmaRun devices init [] init
  | step {trace : List (DmaEvent ι)} {σ σ' : DmaSystem ι} {e : DmaEvent ι}
      (run : DmaRun devices init trace σ) (h : DmaStep devices σ e σ') :
      DmaRun devices init (e :: trace) σ'

/-- The live bounce mappings of a device, read off the results of its calls. -/
def liveMappings (d : ι) : List (DmaEvent ι) → List DmaMapping
  | [] => []
  | .map d' (.ok (_, mapping)) :: trace =>
    if d' = d ∧ mapping ≠ NO_MAPPING then liveMappings d trace ++ [mapping]
    else liveMappings d trace
  | .unmap d' mapping (.ok ()) :: trace =>
    if d' = d then (liveMappings d trace).erase mapping else liveMappings d trace
  | _ :: trace => liveMappings d trace

/-- The bookkeeping of a system that started out as `init`. -/
structure DmaKept (init : DmaSystem ι) (trace : List (DmaEvent ι)) (σ : DmaSystem ι) :
    Prop where
  listed (d : ι) : (σ.maps d).map (·.self) = liveMappings d trace
  nodup (d : ι) : (liveMappings d trace).Nodup
  token (d : ι) (m : MapInfo) (hm : m ∈ σ.maps d) : m.self ≠ 0 ∧ m.self ≠ NO_MAPPING
  owner (d d' : ι) (m m' : MapInfo) (hm : m ∈ σ.maps d) (hm' : m' ∈ σ.maps d')
    (hself : m.self = m'.self) : d = d'
  used (page : Nat) : σ.pageUsed page = true ↔
    init.pageUsed page = true ∨ ∃ d, ∃ m ∈ σ.maps d, m.Covers page
  apart (d : ι) (m : MapInfo) (hm : m ∈ σ.maps d) (page : Nat) (hpage : m.Covers page) :
    init.pageUsed page = false
  disjoint (d d' : ι) (m m' : MapInfo) (hm : m ∈ σ.maps d) (hm' : m' ∈ σ.maps d') (page : Nat)
    (hpage : m.Covers page) (hpage' : m'.Covers page) : d = d' ∧ m.self = m'.self
  removed (d : ι) (hd : σ.registered d = false) : σ.maps d = []

/-- A page is in use after `takePages` if it was or is one of the pages taken. -/
theorem pageUsed_takePages (s : DmaState) (info : MapInfo) (page : Nat) :
    (s.takePages info.mappedHostAddress info.numberOfPages).pageUsed page = true ↔
      s.pageUsed page = true ∨ info.Covers page := by
  rw [DmaState.takePages, MapInfo.Covers]
  dsimp only
  by_cases hin : info.mappedHostAddress.toNat / 4096 ≤ page ∧
      page < info.mappedHostAddress.toNat / 4096 + info.numberOfPages.toNat
  · rw [Segment.overlay_inside _ _ _ _ page hin.1 hin.2]
    exact iff_of_true rfl (.inr hin)
  · rw [Segment.overlay_outside _ _ _ _ page (by omega)]
    exact ⟨.inl, fun h => h.resolve_right hin⟩

theorem pageUsed_freePages (s : DmaState) (info : MapInfo) (page : Nat) :
    (s.freePages info.mappedHostAddress info.numberOfPages).pageUsed page = true ↔
      s.pageUsed page = true ∧ ¬ info.Covers page := by
  rw [DmaState.freePages, MapInfo.Covers]
  dsimp only
  by_cases hin : info.mappedHostAddress.toNat / 4096 ≤ page ∧
      page < info.mappedHostAddress.toNat / 4096 + info.numberOfPages.toNat
  · rw [Segment.overlay_inside _ _ _ _ page hin.1 hin.2]
    exact iff_of_false (by simp) (fun h => h.2 hin)
  · rw [Segment.overlay_outside _ _ _ _ page (by omega)]
    exact ⟨fun h => ⟨h, hin⟩, And.left⟩

theorem free_of_bounceMade (bs : BootServices) (s s' : DmaState) (info : MapInfo)
    (h : BounceMade bs s info s') (page : Nat) (hpage : info.Covers page) :
    s.pageUsed page = false := by
  obtain ⟨limit, hpages⟩ := h.pages
  have hfree := bs.pages_free s _ _ _ _ hpages (page - info.mappedHostAddress.toNat / 4096)
    (Nat.sub_lt_left_of_lt_add hpage.1 hpage.2)
  rw [Nat.add_sub_cancel' hpage.1] at hfree
  exact hfree

section Kept

variable {init σ : DmaSystem ι} {trace : List (DmaEvent ι)}

theorem mem_withDevice (σ : DmaSystem ι) (d d' : ι) (s : DmaState) (m : MapInfo) :
    m ∈ (σ.withDevice d s).maps d' ↔ (d' = d ∧ m ∈ s.maps) ∨ (d' ≠ d ∧ m ∈ σ.maps d') := by
  by_cases hd : d' = d
  · subst hd
    simp [DmaSystem.withDevice]
  · simp [DmaSystem.withDevice, hd]

theorem listed_withDevice (h : DmaKept init trace σ) (d d' : ι) (s : DmaState)
    (live : List DmaMapping) (hlive : s.maps.map (·.self) = live) :
    ((σ.withDevice d s).maps d').map (·.self) =
      if d = d' then live else liveMappings d' trace := by
  by_cases hd : d = d'
  · subst hd
    rw [if_pos rfl, ← hlive]
    simp [DmaSystem.withDevice]
  · rw [if_neg hd, ← h.listed d']
    simp [DmaSystem.withDevice, Function.update_of_ne (Ne.symm hd)]

theorem removed_withDevice (h : DmaKept init trace σ) (d d' : ι) (s : DmaState)
    (hregistered : σ.registered d = true) (hd' : σ.registered d' = false) :
    (σ.withDevice d s).maps d' = [] := by
  have hother : d' ≠ d := by
    intro heq
    rw [heq, hregistered] at hd'
    exact nomatch hd'
  simp [DmaSystem.withDevice, Function.update_of_ne hother, h.removed d' hd']

section Made

variable {bs : BootServices} {d : ι} {info : MapInfo} {s : DmaState}

theorem mem_bounceMade (hmade : BounceMade bs (σ.device d) info s) (d' : ι) (m : MapInfo) :
    m ∈ (σ.withDevice d s).maps d' ↔ m ∈ σ.maps d' ∨ (d' = d ∧ m = info) := by
  have hmaps : s.maps = σ.maps d ++ [info] := hmade.maps_eq
  rw [mem_withDevice, hmaps, List.mem_append, List.mem_singleton]
  by_cases hd : d' = d
  · subst hd
    simp
  · simp [hd]

/-- The pages of a new bounce buffer are those of no mapping made before. -/
theorem clear_of_bounceMade (h : DmaKept init trace σ)
    (hmade : BounceMade bs (σ.device d) info s) (d' : ι) (m : MapInfo) (hm : m ∈ σ.maps d')
    (page : Nat) (hpage : m.Covers page) : ¬ info.Covers page := by
  intro hcovered
  have hfree : σ.pageUsed page = false := free_of_bounceMade bs _ s info hmade page hcovered
  have hused := (h.used page).mpr (.inr ⟨d', m, hm, hpage⟩)
  exact nomatch hfree.symm.trans hused

theorem used_bounceMade (h : DmaKept init trace σ)
    (hmade : BounceMade bs (σ.device d) info s) (page : Nat) :
    (σ.withDevice d s).pageUsed page = true ↔
      init.pageUsed page = true ∨
        ∃ d', ∃ m ∈ (σ.withDevice d s).maps d', m.Covers page := by
  have hpage : (σ.withDevice d s).pageUsed page = true ↔
      σ.pageUsed page = true ∨ info.Covers page := by
    have htaken := pageUsed_takePages (σ.device d) info page
    rw [← hmade.pageUsed_eq] at htaken
    exact htaken
  rw [hpage, h.used page, or_assoc]
  apply or_congr_right
  constructor
  · intro hcovers
    cases hcovers with
    | inl hold =>
        obtain ⟨d', m, hm, hcovers⟩ := hold
        exact ⟨d', m, (mem_bounceMade hmade d' m).mpr (.inl hm), hcovers⟩
    | inr hnew => exact ⟨d, info, (mem_bounceMade hmade d info).mpr (.inr ⟨rfl, rfl⟩), hnew⟩
  · intro hcovers
    obtain ⟨d', m, hm, hcovers⟩ := hcovers
    cases (mem_bounceMade hmade d' m).mp hm with
    | inl hold => exact .inl ⟨d', m, hold, hcovers⟩
    | inr hnew => exact .inr (hnew.2 ▸ hcovers)

theorem disjoint_bounceMade (h : DmaKept init trace σ)
    (hmade : BounceMade bs (σ.device d) info s) (d₁ d₂ : ι) (m₁ m₂ : MapInfo)
    (hm₁ : m₁ ∈ (σ.withDevice d s).maps d₁) (hm₂ : m₂ ∈ (σ.withDevice d s).maps d₂) (page : Nat)
    (hc₁ : m₁.Covers page) (hc₂ : m₂.Covers page) : d₁ = d₂ ∧ m₁.self = m₂.self := by
  obtain hold₁ | ⟨hd₁, hinfo₁⟩ := (mem_bounceMade hmade d₁ m₁).mp hm₁
  · obtain hold₂ | ⟨-, hinfo₂⟩ := (mem_bounceMade hmade d₂ m₂).mp hm₂
    · exact h.disjoint d₁ d₂ m₁ m₂ hold₁ hold₂ page hc₁ hc₂
    · exact absurd (hinfo₂ ▸ hc₂) (clear_of_bounceMade h hmade d₁ m₁ hold₁ page hc₁)
  · obtain hold₂ | ⟨hd₂, hinfo₂⟩ := (mem_bounceMade hmade d₂ m₂).mp hm₂
    · exact absurd (hinfo₁ ▸ hc₁) (clear_of_bounceMade h hmade d₂ m₂ hold₂ page hc₂)
    · exact ⟨hd₁.trans hd₂.symm, by rw [hinfo₁, hinfo₂]⟩

end Made

theorem kept_bounceMade (h : DmaKept init trace σ) (bs : BootServices) (d : ι)
    (hregistered : σ.registered d = true)
    (hfresh : ∀ p, bs.allocatePool (σ.device d) = some p → ∀ d', ∀ m ∈ σ.maps d', m.self ≠ p)
    (info : MapInfo) (s : DmaState) (address : DtBusAddress)
    (hmade : BounceMade bs (σ.device d) info s) :
    DmaKept init (.map d (.ok (address, info.self)) :: trace) (σ.withDevice d s) := by
  have hself := bs.pool_ne_noMapping _ _ hmade.pool
  have hnew := hfresh _ hmade.pool
  have hmem := mem_bounceMade hmade
  have hmaps : s.maps = σ.maps d ++ [info] := hmade.maps_eq
  have hlive (d' : ι) : liveMappings d' (.map d (.ok (address, info.self)) :: trace) =
      if d = d' then liveMappings d trace ++ [info.self] else liveMappings d' trace := by
    rw [liveMappings]
    by_cases hd : d = d'
    · rw [if_pos ⟨hd, hself.2⟩, if_pos hd, hd]
    · rw [if_neg (fun hboth => hd hboth.1), if_neg hd]
  have hunlisted : info.self ∉ liveMappings d trace := by
    rw [← h.listed d]
    intro hin
    obtain ⟨m, hm, hsame⟩ := List.mem_map.mp hin
    exact hnew d m hm hsame
  constructor
  · intro d'
    rw [hlive]
    apply listed_withDevice h
    rw [hmaps, List.map_append, h.listed d, List.map_singleton]
  · intro d'
    rw [hlive]
    split
    · exact List.nodup_append_comm.mp (List.nodup_cons.mpr ⟨hunlisted, h.nodup d⟩)
    · exact h.nodup d'
  · intro d' m hm
    obtain hold | ⟨-, rfl⟩ := (hmem d' m).mp hm
    · exact h.token d' m hold
    · exact hself
  · intro d₁ d₂ m₁ m₂ hm₁ hm₂ hsame
    obtain hold₁ | ⟨hd₁, hinfo₁⟩ := (hmem d₁ m₁).mp hm₁
    · obtain hold₂ | ⟨-, hinfo₂⟩ := (hmem d₂ m₂).mp hm₂
      · exact h.owner d₁ d₂ m₁ m₂ hold₁ hold₂ hsame
      · exact absurd (hinfo₂ ▸ hsame) (hnew d₁ m₁ hold₁)
    · obtain hold₂ | ⟨hd₂, -⟩ := (hmem d₂ m₂).mp hm₂
      · exact absurd (hinfo₁ ▸ hsame.symm) (hnew d₂ m₂ hold₂)
      · exact hd₁.trans hd₂.symm
  · exact used_bounceMade h hmade
  · intro d' m hm page hcovers
    obtain hold | ⟨-, rfl⟩ := (hmem d' m).mp hm
    · exact h.apart d' m hold page hcovers
    · have hfree : σ.pageUsed page = false := free_of_bounceMade bs _ s _ hmade page hcovers
      exact Bool.eq_false_iff.mpr fun hinit =>
        nomatch hfree.symm.trans ((h.used page).mpr (.inl hinit))
  · exact disjoint_bounceMade h hmade
  · exact fun d' => removed_withDevice h d d' s hregistered

theorem kept_unchanged (h : DmaKept init trace σ) (e : DmaEvent ι)
    (hlive : ∀ d, liveMappings d (e :: trace) = liveMappings d trace) :
    DmaKept init (e :: trace) σ where
  listed d := (h.listed d).trans (hlive d).symm
  nodup d := by
    rw [hlive]
    exact h.nodup d
  token := h.token
  owner := h.owner
  used := h.used
  apart := h.apart
  disjoint := h.disjoint
  removed := h.removed

section Ended

variable {d : ι} {info : MapInfo} {s : DmaState}

theorem nodup_self (h : DmaKept init trace σ) (d : ι) : ((σ.maps d).map (·.self)).Nodup := by
  rw [h.listed]
  exact h.nodup d

theorem mem_bounceEnded (h : DmaKept init trace σ) (hlisted : info ∈ σ.maps d)
    (hended : BounceEnded (σ.device d) info s) (d' : ι) (m : MapInfo) :
    m ∈ (σ.withDevice d s).maps d' ↔ m ∈ σ.maps d' ∧ m.self ≠ info.self := by
  have hmaps : s.maps = (σ.maps d).eraseP (·.self = info.self) := hended.maps_eq
  rw [mem_withDevice, hmaps, KeyedList.mem_eraseP_key (nodup_self h d)]
  constructor
  · intro hm
    cases hm with
    | inl hown => exact hown.1 ▸ hown.2
    | inr hother =>
        exact ⟨hother.2, fun hsame =>
          hother.1 (h.owner d' d m info hother.2 hlisted hsame)⟩
  · intro hm
    by_cases hd : d' = d
    · exact .inl ⟨hd, hd ▸ hm⟩
    · exact .inr ⟨hd, hm.1⟩

/-- The pages given back are in use no longer, since no other mapping has them. -/
theorem used_bounceEnded (h : DmaKept init trace σ) (hlisted : info ∈ σ.maps d)
    (hended : BounceEnded (σ.device d) info s) (page : Nat) :
    (σ.withDevice d s).pageUsed page = true ↔
      init.pageUsed page = true ∨
        ∃ d', ∃ m ∈ (σ.withDevice d s).maps d', m.Covers page := by
  have hmem := mem_bounceEnded h hlisted hended
  have hpage : (σ.withDevice d s).pageUsed page = true ↔
      σ.pageUsed page = true ∧ ¬ info.Covers page := by
    have hfreed := pageUsed_freePages (σ.device d) info page
    rw [← hended.pageUsed_eq] at hfreed
    exact hfreed
  rw [hpage, h.used page]
  constructor
  · intro hused
    obtain ⟨hinit | ⟨d', m, hm, hcovers⟩, hclear⟩ := hused
    · exact .inl hinit
    · refine .inr ⟨d', m, (hmem d' m).mpr ⟨hm, fun hsame => hclear ?_⟩, hcovers⟩
      have hd := h.owner d' d m info hm hlisted hsame
      subst hd
      rw [← List.inj_on_of_nodup_map (nodup_self h d') hm hlisted hsame]
      exact hcovers
  · intro hused
    obtain hinit | ⟨d', m, hm, hcovers⟩ := hused
    · refine ⟨.inl hinit, fun hcovers => ?_⟩
      exact nomatch (h.apart d info hlisted page hcovers).symm.trans hinit
    · have hold := (hmem d' m).mp hm
      refine ⟨.inr ⟨d', m, hold.1, hcovers⟩, fun hboth => hold.2 ?_⟩
      exact (h.disjoint d' d m info hold.1 hlisted page hcovers hboth).2

end Ended

theorem kept_bounceEnded (h : DmaKept init trace σ) (d : ι) (info : MapInfo) (s : DmaState)
    (hregistered : σ.registered d = true) (hlisted : info ∈ σ.maps d)
    (hended : BounceEnded (σ.device d) info s) :
    DmaKept init (.unmap d info.self (.ok ()) :: trace) (σ.withDevice d s) := by
  have hmem := mem_bounceEnded h hlisted hended
  have hmaps : s.maps = (σ.maps d).eraseP (·.self = info.self) := hended.maps_eq
  have hlive (d' : ι) : liveMappings d' (.unmap d info.self (.ok ()) :: trace) =
      if d = d' then (liveMappings d trace).erase info.self else liveMappings d' trace := by
    rw [liveMappings]
    exact ite_congr rfl (fun hd => hd ▸ rfl) (fun _ => rfl)
  constructor
  · intro d'
    rw [hlive]
    apply listed_withDevice h
    rw [hmaps, KeyedList.map_eraseP_key, h.listed d]
  · intro d'
    rw [hlive]
    split
    · exact (h.nodup d).erase _
    · exact h.nodup d'
  · intro d' m hm
    exact h.token d' m ((hmem d' m).mp hm).1
  · intro d₁ d₂ m₁ m₂ hm₁ hm₂ hsame
    exact h.owner d₁ d₂ m₁ m₂ ((hmem d₁ m₁).mp hm₁).1 ((hmem d₂ m₂).mp hm₂).1 hsame
  · exact used_bounceEnded h hlisted hended
  · intro d' m hm
    exact h.apart d' m ((hmem d' m).mp hm).1
  · intro d₁ d₂ m₁ m₂ hm₁ hm₂
    exact h.disjoint d₁ d₂ m₁ m₂ ((hmem d₁ m₁).mp hm₁).1 ((hmem d₂ m₂).mp hm₂).1
  · exact fun d' => removed_withDevice h d d' s hregistered

/-- A removal is refused while a mapping is live, and otherwise loses nothing. -/
theorem remove_cases (σ : DmaSystem ι) (d : ι) (unregister : EfiStatus) :
    (∃ e, σ.remove d unregister = (.error e, σ)) ∨
      (σ.maps d = [] ∧ σ.remove d unregister = (.ok (), σ.cleanup d)) := by
  rw [DmaSystem.remove, dtDeviceRemove]
  by_cases hempty : σ.maps d = []
  · rw [hempty]
    cases unregister with
    | error e => exact .inl ⟨e, rfl⟩
    | ok _ => exact .inr ⟨rfl, rfl⟩
  · have hfull : (σ.maps d).isEmpty = false := by simpa using hempty
    rw [hfull]
    exact .inl ⟨_, rfl⟩

theorem kept_cleanup (h : DmaKept init trace σ) (d : ι) (hempty : σ.maps d = []) :
    DmaKept init (.remove d (.ok ()) :: trace) (σ.cleanup d) where
  listed := h.listed
  nodup := h.nodup
  token := h.token
  owner := h.owner
  used := h.used
  apart := h.apart
  disjoint := h.disjoint
  removed d' hd' := by
    by_cases hd : d' = d
    · rw [hd]
      exact hempty
    · have hsame : (σ.cleanup d).registered d' = σ.registered d' := Function.update_of_ne hd _ _
      exact h.removed d' (hsame.symm.trans hd')

def Ends (σ : DmaSystem ι) (e : DmaEvent ι) (info : MapInfo) : Prop :=
  ∃ d, e = .unmap d info.self (.ok ()) ∧ info ∈ σ.maps d

structure Makes (σ : DmaSystem ι) (e : DmaEvent ι) (σ' : DmaSystem ι) (d : ι) (info : MapInfo)
    (s : DmaState) : Prop where
  registered : σ.registered d = true
  event : ∃ address, e = .map d (.ok (address, info.self))
  made : ∃ bs : BootServices, BounceMade bs (σ.device d) info s ∧
    ∀ p, bs.allocatePool (σ.device d) = some p → ∀ d', ∀ m ∈ σ.maps d', m.self ≠ p
  next : σ' = σ.withDevice d s

/-- A step makes a bounce buffer, ends one, removes a device without mappings, or does
nothing. -/
theorem dmaStep_cases (devices : ι → DtDevice) (h : DmaKept init trace σ) (e : DmaEvent ι)
    (σ' : DmaSystem ι) (hstep : DmaStep devices σ e σ') :
    (σ' = σ ∧ (∀ d, liveMappings d (e :: trace) = liveMappings d trace) ∧
        ∀ info, ¬ Ends σ e info) ∨
      (∃ d info s, Makes σ e σ' d info s) ∨
      (∃ d info s, e = .unmap d info.self (.ok ()) ∧ info ∈ σ.maps d ∧ σ.registered d = true ∧
        BounceEnded (σ.device d) info s ∧ σ' = σ.withDevice d s) ∨
      ∃ d, e = .remove d (.ok ()) ∧ σ.maps d = [] ∧ σ' = σ.cleanup d := by
  cases hstep with
  | map d bs operation hostAddress extra numberOfBytes outputs result s hregistered hfresh hcall =>
      obtain ⟨e, hmap⟩ | ⟨address, hmap⟩ | ⟨info, s', hmap, hmade⟩ :=
        dtIoMap_cases bs (devices d) (σ.device d) operation hostAddress extra numberOfBytes outputs
      · obtain ⟨rfl, rfl⟩ := Prod.mk.inj (hmap.symm.trans hcall)
        exact .inl ⟨DmaSystem.withDevice_device σ d, fun _ => rfl, fun info hends => by
          obtain ⟨d', hevent, -⟩ := hends
          simp at hevent⟩
      · obtain ⟨rfl, rfl⟩ := Prod.mk.inj (hmap.symm.trans hcall)
        refine .inl ⟨DmaSystem.withDevice_device σ d, fun d' => ?_, fun info hends => ?_⟩
        · rw [liveMappings, if_neg (fun hboth => hboth.2 rfl)]
        · obtain ⟨d', hevent, -⟩ := hends
          simp at hevent
      · obtain ⟨rfl, rfl⟩ := Prod.mk.inj (hmap.symm.trans hcall)
        exact .inr (.inl ⟨d, info, s', hregistered, ⟨_, rfl⟩, ⟨bs, hmade, hfresh⟩, rfl⟩)
  | unmap d mapping status s hregistered hcall =>
      have hunended (hne : mapping ∉ (σ.maps d).map (·.self)) (status : EfiStatus) :
          ∀ info, ¬ Ends σ (.unmap d mapping status) info := by
        intro info hends
        obtain ⟨d', hevent, hinfo⟩ := hends
        simp only [DmaEvent.unmap.injEq] at hevent
        obtain ⟨rfl, rfl, -⟩ := hevent
        exact hne (List.mem_map_of_mem hinfo)
      by_cases hnone : mapping = NO_MAPPING
      · subst hnone
        obtain ⟨rfl, rfl⟩ := Prod.mk.inj ((dtIoUnmap_noMapping _ _).symm.trans hcall)
        have habsent (d' : ι) : NO_MAPPING ∉ (σ.maps d').map (·.self) := by
          intro hin
          obtain ⟨m, hm, hself⟩ := List.mem_map.mp hin
          exact (h.token d' m hm).2 hself
        refine .inl ⟨DmaSystem.withDevice_device σ d, fun d' => ?_, hunended (habsent d) _⟩
        have hunlisted := habsent d'
        rw [h.listed d'] at hunlisted
        rw [liveMappings, List.erase_of_not_mem hunlisted, ite_self]
      · by_cases hlisted : mapping ∈ (σ.maps d).map (·.self)
        · have hzero : mapping ≠ 0 := by
            obtain ⟨m, hm, hself⟩ := List.mem_map.mp hlisted
            rw [← hself]
            exact (h.token d m hm).1
          obtain ⟨info, hinfo, rfl, s', hunmap, hended⟩ :=
            dtIoUnmap_listed (devices d) (σ.device d) mapping hzero hnone hlisted
          obtain ⟨rfl, rfl⟩ := Prod.mk.inj (hunmap.symm.trans hcall)
          exact .inr (.inr (.inl ⟨d, info, s', rfl, hinfo, hregistered, hended, rfl⟩))
        · have hunmap := dtIoUnmap_unknown (devices d) (σ.device d) mapping hnone hlisted
          obtain ⟨rfl, rfl⟩ := Prod.mk.inj (hunmap.symm.trans hcall)
          exact .inl ⟨DmaSystem.withDevice_device σ d, fun _ => rfl, hunended hlisted _⟩
  | remove _ d unregister status hregistered hcall =>
      obtain ⟨e, hremove⟩ | ⟨hempty, hremove⟩ := remove_cases σ d unregister
      · obtain ⟨rfl, rfl⟩ := Prod.mk.inj (hremove.symm.trans hcall)
        exact .inl ⟨rfl, fun _ => rfl, fun info hends => by
          obtain ⟨d', hevent, -⟩ := hends
          simp at hevent⟩
      · obtain ⟨rfl, rfl⟩ := Prod.mk.inj (hremove.symm.trans hcall)
        exact .inr (.inr (.inr ⟨d, rfl, hempty, rfl⟩))

theorem kept_step (devices : ι → DtDevice) (h : DmaKept init trace σ) (e : DmaEvent ι)
    (σ' : DmaSystem ι) (hstep : DmaStep devices σ e σ') : DmaKept init (e :: trace) σ' := by
  obtain ⟨rfl, hlive, -⟩ | ⟨d, info, s, hmakes⟩ |
    ⟨d, info, s, rfl, hinfo, hregistered, hended, rfl⟩ | ⟨d, rfl, hempty, rfl⟩ :=
    dmaStep_cases devices h e σ' hstep
  · exact kept_unchanged h e hlive
  · obtain ⟨bs, hmade, hfresh⟩ := hmakes.made
    obtain ⟨address, rfl⟩ := hmakes.event
    rw [hmakes.next]
    exact kept_bounceMade h bs d hmakes.registered hfresh info s address hmade
  · exact kept_bounceEnded h d info s hregistered hinfo hended
  · exact kept_cleanup h d hempty

theorem kept_run (devices : ι → DtDevice) (hempty : ∀ d, init.maps d = [])
    (run : DmaRun devices init trace σ) : DmaKept init trace σ := by
  induction run with
  | start =>
      exact {
        listed := fun d => by rw [hempty d]; rfl
        nodup := fun _ => List.nodup_nil
        token := fun d m hm => by simp [hempty d] at hm
        owner := fun d _ m _ hm => by simp [hempty d] at hm
        used := fun page => by simp [hempty]
        apart := fun d m hm => by simp [hempty d] at hm
        disjoint := fun d _ m _ hm => by simp [hempty d] at hm
        removed := fun d _ => hempty d }
  | step _ hstep ih => exact kept_step devices ih _ _ hstep

theorem info_eq_of_self (h : DmaKept init trace σ) (d : ι) (m m' : MapInfo)
    (hm : m ∈ σ.maps d) (hm' : m' ∈ σ.maps d) (hself : m.self = m'.self) : m = m' := by
  have hnodup := h.nodup d
  rw [← h.listed d] at hnodup
  exact List.inj_on_of_nodup_map hnodup hm hm' hself

theorem freed_iff (devices : ι → DtDevice) (h : DmaKept init trace σ) (e : DmaEvent ι)
    (σ' : DmaSystem ι) (hstep : DmaStep devices σ e σ') (page : Nat) :
    (σ.pageUsed page = true ∧ ¬ σ'.pageUsed page = true) ↔
      ∃ info, Ends σ e info ∧ info.Covers page := by
  obtain ⟨rfl, -, hunended⟩ | ⟨d, info, s, hmakes⟩ | ⟨d, info, s, rfl, hinfo, -, hended, rfl⟩ |
    ⟨d, rfl, -, rfl⟩ := dmaStep_cases devices h e σ' hstep
  · exact iff_of_false (fun hfreed => hfreed.2 hfreed.1)
      (fun hends => hends.elim fun info hboth => hunended info hboth.1)
  · obtain ⟨bs, hmade, -⟩ := hmakes.made
    obtain ⟨address, rfl⟩ := hmakes.event
    refine iff_of_false (fun hfreed => ?_) ?_
    · have htaken := pageUsed_takePages (σ.device d) info page
      rw [← hmade.pageUsed_eq] at htaken
      rw [hmakes.next] at hfreed
      exact hfreed.2 (htaken.mpr (.inl hfreed.1))
    · rintro ⟨info', ⟨d', hevent, -⟩, -⟩
      simp at hevent
  · have hfreed := pageUsed_freePages (σ.device d) info page
    rw [← hended.pageUsed_eq] at hfreed
    have hafter : (σ.withDevice d s).pageUsed page = true ↔
        σ.pageUsed page = true ∧ ¬ info.Covers page := hfreed
    rw [hafter]
    constructor
    · rintro ⟨hused, hkept⟩
      refine ⟨info, ⟨d, rfl, hinfo⟩, ?_⟩
      by_contra hclear
      exact hkept ⟨hused, hclear⟩
    · rintro ⟨info', ⟨d', hevent, hinfo'⟩, hcovers⟩
      simp only [DmaEvent.unmap.injEq] at hevent
      obtain ⟨rfl, hself, -⟩ := hevent
      rw [← info_eq_of_self h d info info' hinfo hinfo' hself] at hcovers
      exact ⟨(h.used page).mpr (.inr ⟨d, info, hinfo, hcovers⟩), fun hkept => hkept.2 hcovers⟩
  · refine iff_of_false (fun hfreed => hfreed.2 hfreed.1) ?_
    rintro ⟨info', ⟨d', hevent, -⟩, -⟩
    simp at hevent

end Kept

/-- A run of requests, from devices without mappings. -/
structure DmaHistory (devices : ι → DtDevice) where
  init : DmaSystem ι
  init_maps : ∀ d, init.maps d = []
  trace : List (DmaEvent ι)
  now : DmaSystem ι
  run : DmaRun devices init trace now

variable {devices : ι → DtDevice}

/-- An Unmap with a token that is not live on the device is refused and changes nothing. -/
def UnknownRefused (h : DmaHistory devices) (d : ι) (mapping : DmaMapping) : Prop :=
  mapping ∉ liveMappings d h.trace →
    dtIoUnmap (some (devices d)) mapping (h.now.device d) =
      (.error .invalidParameter, h.now.device d)

/-- What holds after every run: the books, and what each request may do to them next. -/
structure DmaBookkept (h : DmaHistory devices) : Prop where
  kept : DmaKept h.init h.trace h.now
  freed (e : DmaEvent ι) (σ : DmaSystem ι) (hstep : DmaStep devices h.now e σ) (page : Nat) :
    (h.now.pageUsed page = true ∧ ¬ σ.pageUsed page = true) ↔
      ∃ info, Ends h.now e info ∧ info.Covers page
  unmapped (d : ι) (mapping : DmaMapping) (hlive : mapping ∈ liveMappings d h.trace) :
    (dtIoUnmap (some (devices d)) mapping (h.now.device d)).1 = .ok ()
  unknown (d : ι) (mapping : DmaMapping) (hmapping : mapping ≠ NO_MAPPING) :
    UnknownRefused h d mapping
  noMapping (d : ι) :
    dtIoUnmap (some (devices d)) NO_MAPPING (h.now.device d) = (.ok (), h.now.device d)
  removal (d : ι) (unregister : EfiStatus) (hlive : liveMappings d h.trace ≠ []) :
    h.now.remove d unregister = (.error .accessDenied, h.now)

/-- In every run the `Maps` lists are the live mappings, the pages in use are theirs, and
only the Unmap of a live mapping frees anything. -/
theorem dmaHistory_bookkept (h : DmaHistory devices) : DmaBookkept h := by
  have hkept := kept_run devices h.init_maps h.run
  refine ⟨hkept, fun e σ hstep page => freed_iff devices hkept e σ hstep page, ?_, ?_,
    fun d => dtIoUnmap_noMapping (devices d) (h.now.device d), ?_⟩
  · intro d mapping hlive
    rw [← hkept.listed d] at hlive
    have htoken : mapping ≠ 0 ∧ mapping ≠ NO_MAPPING := by
      obtain ⟨m, hm, rfl⟩ := List.mem_map.mp hlive
      exact hkept.token d m hm
    obtain ⟨info, -, -, s, hcall, -⟩ :=
      dtIoUnmap_listed (devices d) (h.now.device d) mapping htoken.1 htoken.2 hlive
    rw [hcall]
  · intro d mapping hmapping hunknown
    rw [← hkept.listed d] at hunknown
    exact dtIoUnmap_unknown (devices d) (h.now.device d) mapping hmapping hunknown
  · intro d unregister hlive
    have hfull : (h.now.maps d).isEmpty = false := by
      rw [← hkept.listed d] at hlive
      simpa using hlive
    rw [DmaSystem.remove, dtDeviceRemove, hfull]
    rfl

end Runs

/-- A coherent device that reaches all of memory. -/
def deviceAll : DtDevice := .root ⟨1, 1, 0, 2, 1, 1, 4, true, 0, none, MAX_UINT64⟩

def idleSystem : DmaSystem Unit := ⟨fun _ => 0, fun _ => false, fun _ => [], fun _ => true⟩

/-- A buffer is mapped in place and unmapped. -/
def directHistory : DmaHistory (fun _ : Unit => deviceAll) where
  init := idleSystem
  init_maps _ := rfl
  trace := [.unmap () NO_MAPPING (.ok ()), .map () (.ok (0x1000, NO_MAPPING))]
  now := idleSystem
  run := by
    have hmap : DmaStep (fun _ => deviceAll) idleSystem (.map () (.ok (0x1000, NO_MAPPING)))
        idleSystem :=
      .map idleSystem () smallMachine .busMasterRead 0x1000 none (some 1) true _ _ rfl
        (fun p _ d m hm => absurd hm (by simp [idleSystem])) rfl
    have hunmap : DmaStep (fun _ => deviceAll) idleSystem (.unmap () NO_MAPPING (.ok ()))
        idleSystem :=
      .unmap idleSystem () NO_MAPPING _ _ rfl rfl
    exact .step (.step .start hmap) hunmap

/-- `NO_MAPPING` is no live mapping, and yet is accepted again. -/
theorem noMapping_accepted : ¬ UnknownRefused directHistory () NO_MAPPING := by
  intro h
  have hrefused := h (by decide)
  rw [dtIoUnmap_noMapping] at hrefused
  exact absurd (congrArg Prod.fst hrefused) (by simp)

end FdtBusPkg
