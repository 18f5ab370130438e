import Mathlib.Data.List.Dedup
import FdtBusPkg.DtBus.DriverStop

/-!
The drivers of a device when they are this bus driver: a disconnect stops the children that the
driver has opened and then the device, and a connect starts it again. Each level of the tree
relies on the levels beneath it.
-/
namespace FdtBusPkg

section Disconnect

variable (services : EfiHandle → RemoveServices) (σ : Registry)

/-- The child controllers of an agent, as `DisconnectController` collects them. -/
def Registry.childrenOf (agent handle : EfiHandle) : List EfiHandle :=
  (((σ.opens handle).filter fun e => e.agent = agent && e.attributes = .byChildController).map
    (·.controller)).dedup

/-- `DisconnectController` of one driver from a handle. -/
def disconnectDriver (agent handle : EfiHandle) : EfiStatus × Registry :=
  let children := σ.childrenOf agent handle
  if children = [] then
    driverStop services agent handle σ []
  else
    match driverStop services agent handle σ children with
    | (.error e, σ) => (.error e, σ)
    | (.ok _, σ) => driverStop services agent handle σ []

/-- One driver at most has the protocol of a handle open. -/
def busDisconnect (handle : EfiHandle) : EfiStatus × Registry :=
  match (σ.opens handle).find? fun e => e.attributes = .byDriver with
  | none => (.ok (), σ)
  | some e => disconnectDriver services σ e.agent handle

end Disconnect

/-- The services of a platform for some levels of devices. -/
def busDrivers (w : Platform) (removes : EfiHandle → RemoveServices) : Nat → DriverServices
  | 0 => idleDrivers
  | levels + 1 =>
    ⟨busDisconnect fun child => { removes child with drivers := busDrivers w removes levels },
      fun σ handle => (connectController w levels σ handle).1⟩

section Stop

variable {bus : DtBusDriver} {root : DtDeviceRecord} {X : Set EfiHandle} {σ : Registry}
  {agent : EfiHandle} {p : DtDeviceRecord} {services : EfiHandle → RemoveServices}

theorem RegistryInv.asked (h : RegistryInv bus root σ) (p : DtDeviceRecord) (agent : EfiHandle) :
    ∃ children : List DtDeviceRecord, StopAsked σ p agent children ∧
      children.map (·.handle) = σ.childrenOf agent p.handle := by
  have hlisted (handle : EfiHandle) (hmem : handle ∈ σ.childrenOf agent p.handle) :
      ⟨agent, handle, .byChildController⟩ ∈ σ.opens p.handle := by
    obtain ⟨e, he, rfl⟩ := List.mem_map.mp (List.mem_dedup.mp hmem)
    obtain ⟨hopen, hmatch⟩ := List.mem_filter.mp he
    obtain ⟨hagent, hchild⟩ := Bool.and_eq_true_iff.mp hmatch
    cases e
    simp_all
  have hrecord (handle : EfiHandle) (hmem : handle ∈ σ.childrenOf agent p.handle) :
      ∃ c ∈ σ.devices, c.handle = handle :=
    List.mem_map.mp (h.controller_mem (hlisted handle hmem) rfl)
  choose record hmem hhandle using hrecord
  have hmap : ((σ.childrenOf agent p.handle).attach.map fun x => record x.1 x.2).map (·.handle) =
      σ.childrenOf agent p.handle := by
    rw [List.map_map, List.map_congr_left fun x _ => hhandle x.1 x.2]
    exact List.attach_map_subtype_val _
  have hnodup : (σ.childrenOf agent p.handle).Nodup := List.nodup_dedup _
  refine ⟨_, ⟨List.Nodup.of_map (·.handle) (hmap.symm ▸ hnodup), fun c hc => ?_,
    fun c hc => ?_⟩, hmap⟩
  · obtain ⟨x, -, rfl⟩ := List.mem_map.mp hc
    exact hmem x.1 x.2
  · obtain ⟨x, -, rfl⟩ := List.mem_map.mp hc
    exact (hhandle x.1 x.2).symm ▸ hlisted x.1 x.2

theorem DriverInv.keepsBelow_stop (h : DriverInv bus root σ) (hlinked : σ.Linked bus X)
    (hp : p ∈ σ.devices) (hout : Outside X p σ) {children : List DtDeviceRecord}
    (hasked : StopAsked σ p agent children)
    (hdrivers : ∀ c ∈ children, (services c.handle).drivers.Documented bus root)
    (hreopen : ∀ c ∈ children, (services c.handle).reopen = .ok ()) :
    KeepsBelow bus root X p σ
      (driverStop services agent p.handle σ (children.map (·.handle))).2 := by
  rw [driverStop]
  split_ifs with hnone
  · exact h.keepsBelow_unbind hlinked agent hp
  · have hstopped := (stopChildren_stopped services h hlinked hp hout hasked hdrivers hreopen
      true).1
    exact ⟨hstopped.toChildrenStopped.keepsOutside h.toRegistryInv hp hasked.mem
      fun c hc => hasked.isChildOf h.toRegistryInv hp hc, hstopped.inv, hstopped.linked⟩

theorem DriverInv.keepsBelow_disconnect (h : DriverInv bus root σ) (hlinked : σ.Linked bus X)
    (hp : p ∈ σ.devices) (hout : Outside X p σ)
    (hdrivers : ∀ child, (services child).drivers.Documented bus root)
    (hreopen : ∀ child, (services child).reopen = .ok ()) :
    KeepsBelow bus root X p σ (busDisconnect services σ p.handle).2 := by
  have hunbind (agent : EfiHandle) {σ' : Registry} (h' : KeepsBelow bus root X p σ σ') :
      KeepsBelow bus root X p σ (driverStop services agent p.handle σ' []).2 :=
    h'.trans (h'.inv.keepsBelow_unbind h'.linked agent (h'.kept p hp (not_beneath_self p)))
  rw [busDisconnect]
  cases hfind : (σ.opens p.handle).find? fun e => e.attributes = .byDriver with
  | none => exact .refl h hlinked
  | some e =>
      obtain ⟨children, hasked, hchildren⟩ := h.toRegistryInv.asked p e.agent
      have hstop := h.keepsBelow_stop hlinked hp hout hasked (fun c _ => hdrivers c.handle)
        fun c _ => hreopen c.handle
      rw [hchildren] at hstop
      dsimp only [disconnectDriver]
      split_ifs with hnone
      · exact hunbind e.agent (.refl h hlinked)
      · generalize driverStop services e.agent p.handle σ (σ.childrenOf e.agent p.handle) = result
          at hstop ⊢
        obtain ⟨status, σ'⟩ := result
        cases status with
        | error e' => exact hstop
        | ok u => exact hunbind e.agent hstop

end Stop

section Connect

variable {root : DtDeviceRecord} {X : Set EfiHandle} {σ : Registry} {d : DtDeviceRecord}

theorem connectAll_keepsBelow {bus : DtBusDriver}
    {connect : Registry → EfiHandle → Registry × List EfiHandle}
    (hconnect : ∀ σ c, DriverInv bus root σ → σ.Linked bus X → c ∈ σ.devices →
      KeepsBelow bus root X c σ (connect σ c.handle).1)
    (hunknown : ∀ σ handle, handle ∉ σ.handles → (connect σ handle).1 = σ)
    (handles : List EfiHandle) (h : DriverInv bus root σ) (hlinked : σ.Linked bus X)
    (hbeneath : ∀ handle ∈ handles, ∀ c ∈ σ.devices, c.handle = handle → Beneath d c) :
    KeepsBelow bus root X d σ (connectAll connect handles σ).1 := by
  induction handles generalizing σ with
  | nil => exact .refl h hlinked
  | cons handle handles ih =>
      have hfirst : KeepsBelow bus root X d σ (connect σ handle).1 ∧
          ∀ c ∈ (connect σ handle).1.devices, c ∈ σ.devices ∨ Beneath d c := by
        by_cases hmem : handle ∈ σ.handles
        · obtain ⟨c, hc, rfl⟩ := List.mem_map.mp hmem
          have hbelow := hbeneath c.handle List.mem_cons_self c hc rfl
          have hkeeps := hconnect σ c h hlinked hc
          exact ⟨hkeeps.of_beneath hbelow, (hkeeps.of_beneath hbelow).only⟩
        · rw [hunknown σ handle hmem]
          exact ⟨.refl h hlinked, fun c hc => .inl hc⟩
      rw [connectAll]
      refine hfirst.1.trans (ih hfirst.1.inv hfirst.1.linked fun handle' hhandle c hc heq => ?_)
      exact (hfirst.2 c hc).elim
        (fun hold => hbeneath handle' (List.mem_cons_of_mem _ hhandle) c hold heq) id

theorem connectController_keepsBelow (w : Platform) (sound : w.bus.tree.Sound) (fuel : Nat)
    (h : DriverInv w.bus root σ) (hlinked : σ.Linked w.bus X) (hd : d ∈ σ.devices) :
    KeepsBelow w.bus root X d σ (connectController w fuel σ d.handle).1 := by
  induction fuel generalizing σ d with
  | zero => exact .refl h hlinked
  | succ fuel ih =>
      rw [connectController, h.find_handle hd]
      dsimp only
      split_ifs with hbound hsupported
      · exact .refl h hlinked
      · have hstarted := h.keepsBelow_start hlinked sound w.services w.agent hd none hsupported
        generalize (driverStart w.bus σ w.agent w.services d none).2 = σ₁ at hstarted
        have hd₁ := hstarted.kept d hd (not_beneath_self d)
        refine hstarted.trans (connectAll_keepsBelow (fun σ c h hlinked hc => ih h hlinked hc)
          (fun σ handle hfree => ?_) _ hstarted.inv hstarted.linked
          fun handle hhandle c hc heq => ?_)
        · cases fuel with
          | zero => rfl
          | succ fuel =>
              have hfind : σ.find handle = none := by
                refine List.find?_eq_none.mpr fun c hc hsame => hfree ?_
                exact List.mem_map.mpr ⟨c, hc, of_decide_eq_true hsame⟩
              rw [connectController, hfind]
        · obtain ⟨e, he, hcontroller⟩ := List.mem_map.mp hhandle
          obtain ⟨hopen, hattributes⟩ := List.mem_filter.mp he
          obtain ⟨p, hp, hsame, c', hc', hcontroller', -, hchild⟩ :=
            hstarted.inv.entry _ e hopen (of_decide_eq_true hattributes)
          obtain rfl := hstarted.inv.eq_of_handle hp hd₁ hsame
          obtain rfl := hstarted.inv.eq_of_handle hc' hc
            (hcontroller'.trans (hcontroller.trans heq.symm))
          exact hchild.beneath
      · cases w.client d with
        | none => exact .refl h hlinked
        | some client => exact h.keepsBelow_openByDriver hlinked client hd

end Connect

/-- Levels on which this bus driver is stopped and started are as a platform documents them. -/
theorem busDrivers_documented (w : Platform) (sound : w.bus.tree.Sound) (root : DtDeviceRecord)
    {removes : EfiHandle → RemoveServices} (hreopen : ∀ child, (removes child).reopen = .ok ())
    (levels : Nat) : (busDrivers w removes levels).Documented w.bus root := by
  induction levels with
  | zero => exact ⟨fun h hlinked _ _ => .refl h hlinked, fun h hlinked _ _ => .refl h hlinked⟩
  | succ levels ih =>
      refine ⟨fun h hlinked hc hout => ?_, fun h hlinked hc _ => ?_⟩
      · exact h.keepsBelow_disconnect hlinked hc hout (fun _ => ih) hreopen
      · exact connectController_keepsBelow w sound levels h hlinked hc

end FdtBusPkg
