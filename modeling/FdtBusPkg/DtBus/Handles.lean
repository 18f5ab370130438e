import FdtBusPkg.Library.OpenRecords
import FdtBusPkg.DtBus.Registration

/-!
Registration of devices on the handle database, protocol by protocol. Every service can
fail where it is called. A device that cannot be registered leaves no trace; one that cannot
be unregistered is left as it was if its open by child controller was the agent's only open
of the parent for it, as all of them are closed.
-/
namespace FdtBusPkg

open OpenRecords (Database)

def leBytes {w : Nat} (n : Nat) (x : BitVec w) : List U8 :=
  (List.range n).map fun i => BitVec.ofNat 8 (x.toNat / 256 ^ i)

/-- `CreateDeviceNode` of a vendor device path node, filled in. -/
def vendorPathNode (guid data : List U8) : List U8 :=
  [HARDWARE_DEVICE_PATH, HW_VENDOR_DP] ++ leBytes 2 (BitVec.ofNat 16 (20 + data.length)) ++
    guid ++ data

/-- The protocols that the drivers install. -/
inductive ProtocolGuid
  | devicePath
  | dtIo
  | virtioDevice
  | firmwareVolumeBlock
  | nvVarStoreFormatted
  deriving DecidableEq, Repr

/-- An installed interface; `none` is a null one. -/
inductive ProtocolInterface
  | devicePath (path : DevicePath)
  | dtIo (dtIo : DtIoRef)
  | virtioDevice (regBase : Uintn)
  | fvbProtocol (instance_ : PoolRef)
  | none
  deriving DecidableEq, Repr

/-- The interfaces on the handles, with the open protocol information of each. -/
abbrev Handles := Database (EfiHandle × ProtocolGuid) ProtocolInterface OpenEntry

/-- The open is by the agent for the controller. -/
def OpenEntry.IsBy (agent controller : EfiHandle) (e : OpenEntry) : Prop :=
  e.agent = agent ∧ e.controller = controller

instance (agent controller : EfiHandle) : DecidablePred (OpenEntry.IsBy agent controller) :=
  fun e => inferInstanceAs (Decidable (e.agent = agent ∧ e.controller = controller))

namespace Handles

/-- A handle that is new: nothing is installed on it, and nothing is open for it. -/
structure Free (db : Handles) (handle : EfiHandle) : Prop where
  bare (protocol : ProtocolGuid) : db.interface (handle, protocol) = none
  unnamed (k : EfiHandle × ProtocolGuid) (e : OpenEntry) (he : e ∈ db.opens k) :
    e.controller ≠ handle

/-- The opens of a protocol by the agent for the controller. -/
def opensBy (db : Handles) (handle : EfiHandle) (protocol : ProtocolGuid)
    (agent controller : EfiHandle) : Multiset OpenEntry :=
  (db.opens (handle, protocol)).filter (OpenEntry.IsBy agent controller)

/-- Nothing is there that was not there before. -/
structure Shrinks (db db' : Handles) : Prop where
  interface (k : EfiHandle × ProtocolGuid) :
    db'.interface k = db.interface k ∨ db'.interface k = none
  opens (k : EfiHandle × ProtocolGuid) : db'.opens k ≤ db.opens k

def Undriven (db : Handles) (k : EfiHandle × ProtocolGuid) : Prop :=
  ∀ e ∈ db.opens k, e.attributes ≠ .byDriver

/-- What comes of `DisconnectController` for the drivers that have a protocol open: nothing if there
are none. Otherwise the drivers close it, or one of them refuses to, and take away what is
theirs, but not the protocol. -/
structure DriversStopped (db : Handles) (k : EfiHandle × ProtocolGuid)
    (stopped : EfiStatus × Handles) : Prop where
  idle (h : db.Undriven k) : stopped = (.ok (), db)
  released (h : stopped.1 = .ok ()) : stopped.2.Undriven k
  kept : stopped.2.interface k = db.interface k
  shrinks : Shrinks db stopped.2

/-- The drivers, as they answer when they are to be stopped. -/
abbrev StopDrivers :=
  (db : Handles) → (k : EfiHandle × ProtocolGuid) → { stopped // DriversStopped db k stopped }

section Services

variable (drivers : StopDrivers) (db : Handles) (status : EfiStatus) (handle : EfiHandle)

/-- `InstallMultipleProtocolInterfaces`, once it has a handle. -/
def installMultiple (interfaces : List (ProtocolGuid × ProtocolInterface)) : Handles :=
  interfaces.foldl (fun db i => db.install (handle, i.1) i.2) db

/-- `UninstallProtocolInterface`: stops the drivers that have the protocol open and closes the
transient opens. If a driver refuses, or the protocol is still open then, the drivers that were
stopped are connected again, as services do that are called to recover. -/
def uninstallProtocol (k : EfiHandle × ProtocolGuid) : EfiStatus × Handles :=
  if db.interface k = none then
    (.error .notFound, db)
  else
    match (drivers db k).val with
    | (.error _, _) => (.error .accessDenied, db)
    | (.ok _, stopped) =>
      if ∀ e ∈ stopped.opens k, e.IsTransient then
        (.ok (), stopped.uninstall k)
      else
        (.error .accessDenied, db.close k OpenEntry.IsTransient)

/-- The loop of `UninstallMultipleProtocolInterfaces`: after a failure the interfaces that are gone
already are installed again. -/
def uninstallEach : List ProtocolGuid → Handles → EfiStatus × Handles
  | [], db => (.ok (), db)
  | protocol :: protocols, db =>
    match db.interface (handle, protocol) with
    | none => (.error .notFound, db)
    | some i =>
      match db.uninstallProtocol drivers (handle, protocol) with
      | (.error e, db) => (.error e, db)
      | (.ok _, db) =>
        match uninstallEach protocols db with
        | (.error e, db) => (.error e, db.install (handle, protocol) i)
        | (.ok _, db) => (.ok (), db)

/-- `UninstallMultipleProtocolInterfaces`; `status` says whether it gets to the loop. -/
def uninstallMultiple (protocols : List ProtocolGuid) : EfiStatus × Handles :=
  match status with
  | .error e => (.error e, db)
  | .ok _ =>
    match uninstallEach drivers handle protocols db with
    | (.error _, db) => (.error .invalidParameter, db)
    | (.ok _, db) => (.ok (), db)

/-- `OpenProtocol`; `status` is its result where the protocol is installed. -/
def openProtocol (protocol : ProtocolGuid) (entry : OpenEntry) : EfiStatus × Handles :=
  if db.interface (handle, protocol) = none then
    (.error .unsupported, db)
  else
    match status with
    | .error e => (.error e, db)
    | .ok _ => (.ok (), db.addOpen (handle, protocol) entry)

/-- `CloseProtocol`; `status` is its result where there is something to close. -/
def closeProtocol (protocol : ProtocolGuid) (agent controller : EfiHandle) :
    EfiStatus × Handles :=
  if db.opensBy handle protocol agent controller = 0 then
    (.error .notFound, db)
  else
    match status with
    | .error e => (.error e, db)
    | .ok _ => (.ok (), db.close (handle, protocol) (OpenEntry.IsBy agent controller))

end Services

section Registration

variable (drivers : StopDrivers)

/-- What the services that a registration calls answer; `undo` is called to recover. -/
structure RegisterServices (db : Handles) where
  install : EfiResult { handle // db.Free handle }
  openChild : EfiStatus
  undo : EfiStatus

def deviceProtocols : List ProtocolGuid := [.devicePath, .dtIo]

def deviceInterfaces (dtDevice : DtDeviceRecord) : List (ProtocolGuid × ProtocolInterface) :=
  [(.devicePath, .devicePath dtDevice.devicePath), (.dtIo, .dtIo dtDevice.dtIo)]

def dtDeviceRegister (db : Handles) (services : RegisterServices db)
    (dtDevice : DtDeviceRecord) (controller : Option EfiHandle) (agent : EfiHandle) :
    EfiStatus × Handles :=
  match services.install with
  | .error e => (.error e, db)
  | .ok ⟨handle, _⟩ =>
    let db := db.installMultiple handle (deviceInterfaces dtDevice)
    match controller with
    | none => (.ok (), db)
    | some controller =>
      match db.openProtocol services.openChild controller .dtIo
          ⟨agent, handle, .byChildController⟩ with
      | (.error e, db) =>
        (.error e, (db.uninstallMultiple drivers services.undo handle deviceProtocols).2)
      | (.ok _, db) => (.ok (), db)

/-- What the services that an unregistration calls answer; `reopen` is called to recover. -/
structure UnregisterServices where
  close : EfiStatus
  uninstall : EfiStatus
  reopen : EfiStatus

def dtDeviceUnregister (db : Handles) (services : UnregisterServices) (handle : EfiHandle)
    (controller : Option EfiHandle) (agent : EfiHandle) : EfiStatus × Handles :=
  match controller with
  | none => db.uninstallMultiple drivers services.uninstall handle deviceProtocols
  | some controller =>
    match db.closeProtocol services.close controller .dtIo agent handle with
    | (.error e, db) => (.error e, db)
    | (.ok _, db) =>
      match db.uninstallMultiple drivers services.uninstall handle deviceProtocols with
      | (.ok _, db) => (.ok (), db)
      | (.error e, db) =>
        match db.openProtocol services.reopen controller .dtIo
            ⟨agent, handle, .byChildController⟩ with
        | (.error e2, db) => (.error e2, db)
        | (.ok _, db) => (.error e, db)

end Registration

section Shrinks

variable {db db' db'' : Handles}

theorem Shrinks.refl (db : Handles) : Shrinks db db := ⟨fun _ => .inl rfl, fun _ => le_rfl⟩

theorem Shrinks.trans (h : Shrinks db db') (h' : Shrinks db' db'') : Shrinks db db'' where
  interface k := by
    obtain hkept | hgone := h'.interface k
    · rw [hkept]
      exact h.interface k
    · exact .inr hgone
  opens k := (h'.opens k).trans (h.opens k)

theorem Shrinks.none (h : Shrinks db db') {k : EfiHandle × ProtocolGuid}
    (hnone : db.interface k = .none) : db'.interface k = .none :=
  (h.interface k).elim (·.trans hnone) id

theorem Shrinks.undriven (h : Shrinks db db') {k : EfiHandle × ProtocolGuid}
    (hundriven : db.Undriven k) : db'.Undriven k :=
  fun e he => hundriven e (Multiset.mem_of_le (h.opens k) he)

theorem shrinks_uninstall (db : Handles) (k : EfiHandle × ProtocolGuid) :
    Shrinks db (db.uninstall k) where
  interface k' := by
    rw [Database.interface_uninstall]
    split
    · exact .inr rfl
    · exact .inl rfl
  opens k' := by
    rw [Database.opens_uninstall]
    split
    · exact Multiset.zero_le _
    · exact le_rfl

theorem shrinks_close (db : Handles) (k : EfiHandle × ProtocolGuid) (q : OpenEntry → Prop)
    [DecidablePred q] : Shrinks db (db.close k q) where
  interface _ := .inl rfl
  opens k' := by
    rw [Database.opens_close]
    split
    · next hk =>
      rw [hk]
      exact Multiset.filter_le _ _
    · exact le_rfl

theorem Shrinks.install (h : Shrinks db db') {k : EfiHandle × ProtocolGuid} {i : ProtocolInterface}
    (hi : db.interface k = some i) : Shrinks db (db'.install k i) where
  interface k' := by
    rw [Database.interface_install]
    split
    · next hk => exact .inl (by rw [hk, hi])
    · exact h.interface k'
  opens := h.opens

end Shrinks

section Uninstall

variable {drivers : StopDrivers} {db : Handles} {k : EfiHandle × ProtocolGuid}

/-- What comes of the uninstall of one protocol. -/
inductive Uninstalled (drivers : StopDrivers) (db : Handles) (k : EfiHandle × ProtocolGuid) :
    EfiStatus × Handles → Prop
  | kept (e : EfiError) : Uninstalled drivers db k (.error e, db)
  | closed (e : EfiError) : Uninstalled drivers db k (.error e, db.close k OpenEntry.IsTransient)
  | done (stopped : Handles) (h : (drivers db k).val = (.ok (), stopped)) :
      Uninstalled drivers db k (.ok (), stopped.uninstall k)

theorem uninstallProtocol_uninstalled (drivers : StopDrivers) (db : Handles)
    (k : EfiHandle × ProtocolGuid) : Uninstalled drivers db k (db.uninstallProtocol drivers k) := by
  rw [uninstallProtocol]
  split
  · exact .kept _
  · split
    · exact .kept _
    · next stopped hok =>
      split
      · exact .done stopped hok
      · exact .closed _

theorem Uninstalled.shrinks {result : EfiStatus × Handles} (h : Uninstalled drivers db k result) :
    Shrinks db result.2 := by
  cases h with
  | kept e => exact .refl db
  | closed e => exact shrinks_close db k _
  | done stopped h =>
      have hstopped := (drivers db k).property.shrinks
      rw [h] at hstopped
      exact hstopped.trans (shrinks_uninstall stopped k)

/-- Without a driver, a protocol that is uninstalled leaves all else as it was. -/
theorem Uninstalled.eq_uninstall {result : EfiStatus × Handles}
    (h : Uninstalled drivers db k result)
    (hok : result.1 = .ok ()) (hundriven : db.Undriven k) : result = (.ok (), db.uninstall k) := by
  cases h with
  | kept e => exact nomatch hok
  | closed e => exact nomatch hok
  | done stopped h =>
      have hidle := (drivers db k).property.idle hundriven
      rw [h, Prod.mk.injEq] at hidle
      rw [hidle.2]

theorem Uninstalled.gone {result : EfiStatus × Handles} (h : Uninstalled drivers db k result)
    (hok : result.1 = .ok ()) : result.2.interface k = none := by
  cases h with
  | kept e => exact nomatch hok
  | closed e => exact nomatch hok
  | done stopped h => rw [Database.interface_uninstall, if_pos rfl]

theorem Uninstalled.of_error {e : EfiError} {db' : Handles}
    (h : Uninstalled drivers db k (.error e, db')) (e' : EfiError) :
    Uninstalled drivers db k (.error e', db') := by
  cases h with
  | kept => exact .kept e'
  | closed => exact .closed e'

theorem uninstallProtocol_unopened (drivers : StopDrivers) (hsome : (db.interface k).isSome)
    (hopens : db.opens k = 0) :
    db.uninstallProtocol drivers k = (.ok (), db.uninstall k) := by
  have hidle := (drivers db k).property.idle fun e he => by simp [hopens] at he
  rw [uninstallProtocol, if_neg (Option.isSome_iff_ne_none.mp hsome), hidle]
  dsimp only
  rw [if_pos (by simp [hopens])]

/-- An uninstall that fails has closed nothing: a driver refuses to be stopped, or there are no
transient opens. -/
def ClosesNone (drivers : StopDrivers) (db : Handles) (k : EfiHandle × ProtocolGuid) : Prop :=
  (db.interface k).isSome → (drivers db k).val.1 = .ok () → ∀ e ∈ db.opens k, ¬ e.IsTransient

theorem close_eq_self_iff (db : Handles) (k : EfiHandle × ProtocolGuid) (q : OpenEntry → Prop)
    [DecidablePred q] : db.close k q = db ↔ ∀ e ∈ db.opens k, ¬ q e := by
  constructor
  · intro h e he
    rw [← h, Database.opens_close, if_pos rfl] at he
    exact (Multiset.mem_filter.mp he).2
  · intro h
    ext k' : 2
    · rfl
    · rw [Database.opens_close]
      split
      · next hk => rw [hk, Multiset.filter_eq_self.mpr h]
      · rfl

/-- Drivers that let go of the protocol and take nothing else away. -/
def yieldingDrivers : StopDrivers := fun db k =>
  ⟨(.ok (), db.close k (·.attributes = .byDriver)),
    { idle := fun h => by rw [(close_eq_self_iff db k _).mpr h]
      released := fun _ e he => by
        rw [Database.opens_close, if_pos rfl] at he
        exact (Multiset.mem_filter.mp he).2
      kept := rfl
      shrinks := shrinks_close db k _ }⟩

theorem uninstallProtocol_restores_iff (h : (db.uninstallProtocol drivers k).1 ≠ .ok ()) :
    (db.uninstallProtocol drivers k).2 = db ↔ db.ClosesNone drivers k := by
  rw [uninstallProtocol] at h ⊢
  rw [ClosesNone]
  split
  · next hnone => exact iff_of_true rfl fun hsome => by simp [hnone] at hsome
  · next hsome =>
    split
    · next e stopped hrefused => exact iff_of_true rfl fun _ hok => by simp [hrefused] at hok
    · next stopped hok =>
      rw [if_neg hsome, hok] at h
      dsimp only at h
      split
      · next htransient => exact absurd (by rw [if_pos htransient]) h
      · refine (close_eq_self_iff db k _).trans ⟨fun hnone _ _ => hnone, fun hnone => ?_⟩
        exact hnone (Option.isSome_iff_ne_none.mpr hsome) (by rw [hok])

end Uninstall

section UninstallEach

variable {drivers : StopDrivers} {handle : EfiHandle}

/-- An uninstall of several protocols that fails has closed nothing: nobody had those open that
were gone by then, and the one that fails closes nothing. -/
def SparesOpens (drivers : StopDrivers) (handle : EfiHandle) : List ProtocolGuid → Handles → Prop
  | [], _ => True
  | protocol :: protocols, db =>
    if (db.uninstallProtocol drivers (handle, protocol)).1 = .ok () then
      db.opens (handle, protocol) = 0 ∧
        SparesOpens drivers handle protocols (db.uninstall (handle, protocol))
    else
      db.ClosesNone drivers (handle, protocol)

/-- What comes of the uninstall of the first protocol of several, and of the others. -/
inductive EachUninstalled (drivers : StopDrivers) (handle : EfiHandle) (protocol : ProtocolGuid)
    (protocols : List ProtocolGuid) (db : Handles) : EfiStatus × Handles → Prop
  | refused (e : EfiError) (db' : Handles)
      (h : db.uninstallProtocol drivers (handle, protocol) = (.error e, db')) :
      EachUninstalled drivers handle protocol protocols db (.error e, db')
  | undone (e : EfiError) (i : ProtocolInterface) (db' db'' : Handles)
      (hi : db.interface (handle, protocol) = some i)
      (h : db.uninstallProtocol drivers (handle, protocol) = (.ok (), db'))
      (hrest : uninstallEach drivers handle protocols db' = (.error e, db'')) :
      EachUninstalled drivers handle protocol protocols db
        (.error e, db''.install (handle, protocol) i)
  | done (db' db'' : Handles)
      (h : db.uninstallProtocol drivers (handle, protocol) = (.ok (), db'))
      (hrest : uninstallEach drivers handle protocols db' = (.ok (), db'')) :
      EachUninstalled drivers handle protocol protocols db (.ok (), db'')

theorem uninstallEach_cons (drivers : StopDrivers) (handle : EfiHandle) (protocol : ProtocolGuid)
    (protocols : List ProtocolGuid) (db : Handles) :
    EachUninstalled drivers handle protocol protocols db
      (uninstallEach drivers handle (protocol :: protocols) db) := by
  rw [uninstallEach]
  split
  · next hnone => exact .refused _ _ (by rw [uninstallProtocol, if_pos hnone])
  · next i hi =>
    split
    · next e db' h => exact .refused e db' h
    · next db' h =>
      split
      · next e db'' hrest => exact .undone e i db' db'' hi h hrest
      · next db'' hrest => exact .done db' db'' h hrest

variable (drivers handle)

theorem uninstallEach_shrinks (protocols : List ProtocolGuid) (db : Handles) :
    Shrinks db (uninstallEach drivers handle protocols db).2 ∧
      ((uninstallEach drivers handle protocols db).1 = .ok () →
        ∀ protocol ∈ protocols,
          (uninstallEach drivers handle protocols db).2.interface (handle, protocol) = none) := by
  induction protocols generalizing db with
  | nil => exact ⟨.refl db, fun _ => nofun⟩
  | cons protocol protocols ih =>
      have hcases := uninstallEach_cons drivers handle protocol protocols db
      generalize uninstallEach drivers handle (protocol :: protocols) db = result at hcases ⊢
      have hfirst := uninstallProtocol_uninstalled drivers db (handle, protocol)
      cases hcases with
      | refused e db' h =>
          rw [h] at hfirst
          exact ⟨hfirst.shrinks, nofun⟩
      | undone e i db' db'' hi h hrest =>
          rw [h] at hfirst
          have hothers := (ih db').1
          rw [hrest] at hothers
          exact ⟨(hfirst.shrinks.trans hothers).install hi, nofun⟩
      | done db' db'' h hrest =>
          rw [h] at hfirst
          obtain ⟨hothers, hgone⟩ := ih db'
          rw [hrest] at hothers hgone
          refine ⟨hfirst.shrinks.trans hothers, fun _ => ?_⟩
          rw [List.forall_mem_cons]
          exact ⟨hothers.none (hfirst.gone rfl), hgone rfl⟩

/-- Without drivers, an uninstall that succeeds leaves all else as it was. -/
theorem uninstallEach_undriven (protocols : List ProtocolGuid) (db : Handles)
    (hundriven : ∀ protocol ∈ protocols, db.Undriven (handle, protocol))
    (h : (uninstallEach drivers handle protocols db).1 = .ok ()) :
    (uninstallEach drivers handle protocols db).2 =
      protocols.foldl (fun db protocol => db.uninstall (handle, protocol)) db := by
  induction protocols generalizing db with
  | nil => rfl
  | cons protocol protocols ih =>
      rw [List.forall_mem_cons] at hundriven
      have hcases := uninstallEach_cons drivers handle protocol protocols db
      generalize uninstallEach drivers handle (protocol :: protocols) db = result at hcases h ⊢
      have hfirst := uninstallProtocol_uninstalled drivers db (handle, protocol)
      cases hcases with
      | refused e db' hrefused => exact nomatch h
      | undone e i db' db'' hi hdone hrest => exact nomatch h
      | done db' db'' hdone hrest =>
          rw [hdone] at hfirst
          have hsame := (Prod.mk.inj (hfirst.eq_uninstall rfl hundriven.1)).2
          have hothers := ih db' (fun other hother =>
            hfirst.shrinks.undriven (hundriven.2 other hother)) (by rw [hrest])
          rw [hrest] at hothers
          rw [List.foldl_cons, ← hsame]
          exact hothers

theorem uninstallEach_unopened (protocols : List ProtocolGuid) (hnodup : protocols.Nodup)
    (db : Handles) (hsome : ∀ protocol ∈ protocols, (db.interface (handle, protocol)).isSome)
    (hopens : ∀ protocol ∈ protocols, db.opens (handle, protocol) = 0) :
    uninstallEach drivers handle protocols db =
      (.ok (), protocols.foldl (fun db protocol => db.uninstall (handle, protocol)) db) := by
  induction protocols generalizing db with
  | nil => rfl
  | cons protocol protocols ih =>
      rw [List.nodup_cons] at hnodup
      rw [List.forall_mem_cons] at hsome hopens
      obtain ⟨i, hi⟩ := Option.isSome_iff_exists.mp hsome.1
      have hne (other : ProtocolGuid) (hother : other ∈ protocols) :
          (handle, other) ≠ (handle, protocol) := by
        intro heq
        exact hnodup.1 ((Prod.mk.inj heq).2 ▸ hother)
      have hothers := ih hnodup.2 (db.uninstall (handle, protocol))
        (fun other hother => by
          rw [Database.interface_uninstall, if_neg (hne other hother)]
          exact hsome.2 other hother)
        (fun other hother => by
          rw [Database.opens_uninstall, if_neg (hne other hother)]
          exact hopens.2 other hother)
      rw [uninstallEach, hi]
      dsimp only
      rw [uninstallProtocol_unopened drivers hsome.1 hopens.1]
      dsimp only
      rw [hothers]
      rfl

/-- An uninstall that fails leaves everything as it was if and only if it closes nothing. -/
theorem uninstallEach_restores_iff (protocols : List ProtocolGuid) (db : Handles)
    (h : (uninstallEach drivers handle protocols db).1 ≠ .ok ()) :
    (uninstallEach drivers handle protocols db).2 = db ↔
      SparesOpens drivers handle protocols db := by
  induction protocols generalizing db with
  | nil => exact absurd rfl h
  | cons protocol protocols ih =>
      have hcases := uninstallEach_cons drivers handle protocol protocols db
      generalize uninstallEach drivers handle (protocol :: protocols) db = result at hcases h ⊢
      have hfirst := uninstallProtocol_uninstalled drivers db (handle, protocol)
      rw [SparesOpens]
      cases hcases with
      | refused e db' hrefused =>
          have hfailed : (db.uninstallProtocol drivers (handle, protocol)).1 ≠ .ok () := by
            rw [hrefused]
            exact nofun
          have hrestores := uninstallProtocol_restores_iff hfailed
          rw [if_neg hfailed, ← hrestores, hrefused]
      | undone e i db' db'' hi huninstall hrest =>
          rw [huninstall] at hfirst ⊢
          rw [if_pos rfl]
          have hfailed : (uninstallEach drivers handle protocols db').1 ≠ .ok () := by
            rw [hrest]
            exact nofun
          have hothers := (uninstallEach_shrinks drivers handle protocols db').1
          rw [hrest] at hothers
          have hunopened (hopens : db.opens (handle, protocol) = 0) :
              db' = db.uninstall (handle, protocol) := by
            have hundriven : db.Undriven (handle, protocol) := fun e he => by simp [hopens] at he
            exact (Prod.mk.inj (hfirst.eq_uninstall rfl hundriven)).2
          constructor
          · intro hrestored
            have hclosed : db''.opens (handle, protocol) = 0 :=
              db''.closed _ (hothers.none (hfirst.gone rfl))
            have hopens : db.opens (handle, protocol) = 0 := by
              rw [← hrestored, Database.opens_install, hclosed]
            have hsame := hunopened hopens
            refine ⟨hopens, ?_⟩
            rw [← hsame, ← ih db' hfailed, hrest, hsame]
            exact Database.eq_uninstall_of_install hrestored (hothers.none (hfirst.gone rfl))
          · rintro ⟨hopens, hspares⟩
            have hsame := hunopened hopens
            rw [← hsame, ← ih db' hfailed, hrest] at hspares
            dsimp only at hspares ⊢
            rw [hspares, hsame]
            exact (Database.install_uninstall_iff db _ i).mpr ⟨hi, hopens⟩
      | done db' db'' huninstall hrest => exact absurd rfl h

end UninstallEach

section UninstallMultiple

variable (drivers : StopDrivers) (db : Handles) (status : EfiStatus) (handle : EfiHandle)
  (protocols : List ProtocolGuid)

theorem uninstallMultiple_cases :
    (∃ e, status = .error e ∧
      db.uninstallMultiple drivers status handle protocols = (.error e, db)) ∨
    status = .ok () ∧ ∃ result, uninstallEach drivers handle protocols db = result ∧
      (db.uninstallMultiple drivers status handle protocols).2 = result.2 ∧
      ((db.uninstallMultiple drivers status handle protocols).1 = .ok () ↔ result.1 = .ok ()) := by
  cases status with
  | error e => exact .inl ⟨e, rfl, rfl⟩
  | ok u =>
      refine .inr ⟨rfl, _, rfl, ?_⟩
      simp only [uninstallMultiple]
      generalize uninstallEach drivers handle protocols db = result
      obtain ⟨status, db'⟩ := result
      cases status with
      | error e => exact ⟨rfl, iff_of_false nofun nofun⟩
      | ok u => exact ⟨rfl, iff_of_true rfl rfl⟩

theorem uninstallMultiple_shrinks :
    Shrinks db (db.uninstallMultiple drivers status handle protocols).2 ∧
      ((db.uninstallMultiple drivers status handle protocols).1 = .ok () →
        ∀ protocol ∈ protocols,
          (db.uninstallMultiple drivers status handle protocols).2.interface
            (handle, protocol) = none) := by
  have heach := uninstallEach_shrinks drivers handle protocols db
  obtain ⟨e, -, hrefused⟩ | ⟨-, result, rfl, hsame, hok⟩ :=
    uninstallMultiple_cases drivers db status handle protocols
  · rw [hrefused]
    exact ⟨.refl db, nofun⟩
  · rw [hsame, hok]
    exact heach

theorem uninstallMultiple_undriven
    (hundriven : ∀ protocol ∈ protocols, db.Undriven (handle, protocol))
    (h : (db.uninstallMultiple drivers status handle protocols).1 = .ok ()) :
    (db.uninstallMultiple drivers status handle protocols).2 =
      protocols.foldl (fun db protocol => db.uninstall (handle, protocol)) db := by
  obtain ⟨e, -, hrefused⟩ | ⟨-, result, rfl, hsame, hok⟩ :=
    uninstallMultiple_cases drivers db status handle protocols
  · rw [hrefused] at h
    exact nomatch h
  · rw [hsame]
    exact uninstallEach_undriven drivers handle protocols db hundriven (hok.mp h)

def Refused : Prop := (db.uninstallMultiple drivers status handle protocols).1 ≠ .ok ()

instance : Decidable (Refused drivers db status handle protocols) :=
  inferInstanceAs (Decidable (_ ≠ _))

/-- An uninstall that fails closes nothing, or does not come to it. -/
def Spares : Prop := status = .ok () → SparesOpens drivers handle protocols db

variable {drivers db status handle protocols}

theorem uninstallMultiple_refused (h : Refused drivers db status handle protocols) :
    ∃ e, db.uninstallMultiple drivers status handle protocols =
      (.error e, (db.uninstallMultiple drivers status handle protocols).2) := by
  rw [Refused] at h
  generalize db.uninstallMultiple drivers status handle protocols = result at h ⊢
  obtain ⟨status, db'⟩ := result
  cases status with
  | error e => exact ⟨e, rfl⟩
  | ok u => exact absurd rfl h

theorem uninstallMultiple_done (h : ¬ Refused drivers db status handle protocols) :
    db.uninstallMultiple drivers status handle protocols =
      (.ok (), (db.uninstallMultiple drivers status handle protocols).2) :=
  Prod.ext (not_not.mp h) rfl

theorem uninstallMultiple_restores_iff (h : Refused drivers db status handle protocols) :
    (db.uninstallMultiple drivers status handle protocols).2 = db ↔
      Spares drivers db status handle protocols := by
  obtain ⟨e, rfl, hrefused⟩ | ⟨rfl, result, rfl, hsame, hok⟩ :=
    uninstallMultiple_cases drivers db status handle protocols
  · rw [hrefused]
    exact iff_of_true rfl nofun
  · rw [hsame, uninstallEach_restores_iff drivers handle protocols db (mt hok.mpr h)]
    exact ⟨fun hspares _ => hspares, fun hspares => hspares rfl⟩

/-- What comes of the uninstall of one protocol by the service for several. -/
theorem uninstallMultiple_single (drivers : StopDrivers) (db : Handles) (status : EfiStatus)
    (handle : EfiHandle) (protocol : ProtocolGuid) :
    Uninstalled drivers db (handle, protocol)
      (db.uninstallMultiple drivers status handle [protocol]) := by
  cases status with
  | error e => exact .kept e
  | ok u =>
      have hfirst := uninstallProtocol_uninstalled drivers db (handle, protocol)
      have hcases := uninstallEach_cons drivers handle protocol [] db
      simp only [uninstallMultiple]
      generalize uninstallEach drivers handle [protocol] db = result at hcases ⊢
      cases hcases with
      | refused e db' h =>
          rw [h] at hfirst
          exact hfirst.of_error .invalidParameter
      | undone e i db' db'' hi h hrest => exact nomatch hrest
      | done db' db'' h hrest =>
          cases hrest
          rw [h] at hfirst
          exact hfirst

end UninstallMultiple

section Specs

variable {db : Handles} {status : EfiStatus} {handle : EfiHandle}

theorem openProtocol_cases (db : Handles) (status : EfiStatus) (handle : EfiHandle)
    (protocol : ProtocolGuid) (entry : OpenEntry) :
    (∃ e, db.openProtocol status handle protocol entry = (.error e, db)) ∨
      db.openProtocol status handle protocol entry =
          (.ok (), db.addOpen (handle, protocol) entry) ∧
        (db.interface (handle, protocol)).isSome := by
  rw [openProtocol.eq_def]
  split
  · exact .inl ⟨_, rfl⟩
  · next hsome =>
      cases status with
      | error e => exact .inl ⟨e, rfl⟩
      | ok u => exact .inr ⟨rfl, Option.isSome_iff_ne_none.mpr hsome⟩

theorem openProtocol_ok (db : Handles) {protocol : ProtocolGuid} (entry : OpenEntry)
    (h : (db.interface (handle, protocol)).isSome) :
    db.openProtocol (.ok ()) handle protocol entry =
      (.ok (), db.addOpen (handle, protocol) entry) := by
  rw [openProtocol.eq_def, if_neg (Option.isSome_iff_ne_none.mp h)]

def Closes (db : Handles) (status : EfiStatus) (handle : EfiHandle) (protocol : ProtocolGuid)
    (agent controller : EfiHandle) : Prop :=
  db.opensBy handle protocol agent controller ≠ 0 ∧ status = .ok ()

instance (db : Handles) (status : EfiStatus) (handle : EfiHandle) (protocol : ProtocolGuid)
    (agent controller : EfiHandle) :
    Decidable (db.Closes status handle protocol agent controller) :=
  inferInstanceAs (Decidable (_ ∧ _))

theorem closeProtocol_done {protocol : ProtocolGuid} {agent controller : EfiHandle}
    (h : db.Closes status handle protocol agent controller) :
    db.closeProtocol status handle protocol agent controller =
        (.ok (), db.close (handle, protocol) (OpenEntry.IsBy agent controller)) ∧
      (db.interface (handle, protocol)).isSome := by
  obtain ⟨e, he⟩ := Multiset.exists_mem_of_ne_zero h.1
  refine ⟨?_, Database.isSome_of_mem (Multiset.mem_filter.mp he).1⟩
  rw [closeProtocol.eq_def, if_neg h.1, h.2]

theorem closeProtocol_refused {protocol : ProtocolGuid} {agent controller : EfiHandle}
    (h : ¬ db.Closes status handle protocol agent controller) :
    ∃ e, db.closeProtocol status handle protocol agent controller = (.error e, db) := by
  rw [closeProtocol.eq_def]
  by_cases hnone : db.opensBy handle protocol agent controller = 0
  · exact ⟨_, if_pos hnone⟩
  · rw [if_neg hnone]
    cases status with
    | error e => exact ⟨e, rfl⟩
    | ok u => exact absurd ⟨hnone, rfl⟩ h

end Specs

section Many

variable (db : Handles) (handle : EfiHandle)

theorem interface_uninstallAll (protocols : List ProtocolGuid) (k : EfiHandle × ProtocolGuid) :
    (protocols.foldl (fun db protocol => db.uninstall (handle, protocol)) db).interface k =
      if k.1 = handle ∧ k.2 ∈ protocols then none else db.interface k := by
  induction protocols generalizing db with
  | nil => simp
  | cons protocol protocols ih =>
      rw [List.foldl_cons, ih, Database.interface_uninstall]
      obtain ⟨handle', protocol'⟩ := k
      by_cases hk : handle' = handle <;> by_cases hp : protocol' = protocol <;> simp [hk, hp]

theorem opens_uninstallAll (protocols : List ProtocolGuid) (k : EfiHandle × ProtocolGuid) :
    (protocols.foldl (fun db protocol => db.uninstall (handle, protocol)) db).opens k =
      if k.1 = handle ∧ k.2 ∈ protocols then 0 else db.opens k := by
  induction protocols generalizing db with
  | nil => simp
  | cons protocol protocols ih =>
      rw [List.foldl_cons, ih, Database.opens_uninstall]
      obtain ⟨handle', protocol'⟩ := k
      by_cases hk : handle' = handle <;> by_cases hp : protocol' = protocol <;> simp [hk, hp]

@[simp] theorem opens_installMultiple (interfaces : List (ProtocolGuid × ProtocolInterface)) :
    (db.installMultiple handle interfaces).opens = db.opens := by
  rw [installMultiple]
  induction interfaces generalizing db with
  | nil => rfl
  | cons i interfaces ih => exact ih (db.install (handle, i.1) i.2)

theorem interface_installMultiple_of_ne (interfaces : List (ProtocolGuid × ProtocolInterface))
    (k : EfiHandle × ProtocolGuid) (hk : k.1 ≠ handle) :
    (db.installMultiple handle interfaces).interface k = db.interface k := by
  rw [installMultiple]
  induction interfaces generalizing db with
  | nil => rfl
  | cons i interfaces ih =>
      refine (ih (db.install (handle, i.1) i.2)).trans ?_
      rw [Database.interface_install, if_neg fun heq => hk (congrArg Prod.fst heq)]

theorem lookup_eq_none {interfaces : List (ProtocolGuid × ProtocolInterface)}
    {protocol : ProtocolGuid} (h : protocol ∉ interfaces.map Prod.fst) :
    interfaces.lookup protocol = none := by
  refine List.lookup_eq_none_iff.mpr fun i hi => ?_
  rw [bne_iff_ne]
  intro heq
  exact h (heq ▸ List.mem_map_of_mem hi)

theorem interface_installMultiple (interfaces : List (ProtocolGuid × ProtocolInterface))
    (hnodup : (interfaces.map Prod.fst).Nodup) (protocol : ProtocolGuid) :
    (db.installMultiple handle interfaces).interface (handle, protocol) =
      (interfaces.lookup protocol).or (db.interface (handle, protocol)) := by
  rw [installMultiple]
  induction interfaces generalizing db with
  | nil => rfl
  | cons i interfaces ih =>
      rw [List.map_cons, List.nodup_cons] at hnodup
      refine (ih (db.install (handle, i.1) i.2) hnodup.2).trans ?_
      rw [Database.interface_install, List.lookup_cons]
      by_cases hp : protocol = i.1
      · rw [hp, lookup_eq_none hnodup.1]
        simp
      · simp [hp, beq_eq_false_iff_ne.mpr hp]

/-- Installing interfaces on a new handle and uninstalling them leaves no trace. -/
theorem uninstallAll_installMultiple (interfaces : List (ProtocolGuid × ProtocolInterface))
    (hnodup : (interfaces.map Prod.fst).Nodup) (hfree : db.Free handle) :
    (interfaces.map Prod.fst).foldl (fun db protocol => db.uninstall (handle, protocol))
      (db.installMultiple handle interfaces) = db := by
  ext k : 2
  · rw [interface_uninstallAll]
    obtain ⟨handle', protocol⟩ := k
    by_cases hk : handle' = handle
    · subst hk
      split
      · exact (hfree.bare protocol).symm
      · next hout =>
          rw [interface_installMultiple _ _ _ hnodup, lookup_eq_none fun hin => hout ⟨rfl, hin⟩]
          rfl
    · rw [if_neg fun hin => hk hin.1, interface_installMultiple_of_ne _ _ _ _ hk]
  · rw [opens_uninstallAll, opens_installMultiple]
    split
    · next hin => rw [db.closed k (by rw [← Prod.eta k, hin.1]; exact hfree.bare k.2)]
    · rfl

end Many

/-- A child has been made on a new handle: its interfaces are there, and the controller, if
there is one, is open for it. -/
structure ChildAdded (db db' : Handles) (handle : EfiHandle)
    (interfaces : List (ProtocolGuid × ProtocolInterface)) (controller : Option EfiHandle)
    (agent : EfiHandle) : Prop where
  free : db.Free handle
  interface (k : EfiHandle × ProtocolGuid) : db'.interface k =
    if k.1 = handle then interfaces.lookup k.2 else db.interface k
  opens (k : EfiHandle × ProtocolGuid) : db'.opens k =
    if controller = some k.1 ∧ k.2 = .dtIo then
      ⟨agent, handle, .byChildController⟩ ::ₘ db.opens k
    else db.opens k

/-- All that is gone is the child: its interfaces and the agent's opens of the controller for it. -/
structure ChildTaken (db db' : Handles) (handle : EfiHandle) (protocols : List ProtocolGuid)
    (controller : Option EfiHandle) (agent : EfiHandle) : Prop where
  interface (k : EfiHandle × ProtocolGuid) : db'.interface k =
    if k.1 = handle ∧ k.2 ∈ protocols then none else db.interface k
  opens (k : EfiHandle × ProtocolGuid) : db'.opens k =
    if k.1 = handle ∧ k.2 ∈ protocols then 0
    else if controller = some k.1 ∧ k.2 = .dtIo then
      (db.opens k).filter (¬ OpenEntry.IsBy agent handle ·)
    else db.opens k

/-- A child is gone, and nothing else but what the drivers of its protocols have taken away. -/
structure ChildGone (db db' : Handles) (handle : EfiHandle) (protocols : List ProtocolGuid)
    (controller : Option EfiHandle) (agent : EfiHandle) : Prop where
  interface (protocol : ProtocolGuid) (h : protocol ∈ protocols) :
    db'.interface (handle, protocol) = none
  link (parent : EfiHandle) (h : controller = some parent) :
    db'.opensBy parent .dtIo agent handle = 0
  shrinks : Shrinks db db'
  undriven (h : ∀ protocol ∈ protocols, db.Undriven (handle, protocol)) :
    ChildTaken db db' handle protocols controller agent

/-- An operation completes, or fails and leaves everything as it was. -/
structure Atomic (db : Handles) (completed : Handles → Prop) (result : EfiStatus × Handles) :
    Prop where
  completes (h : result.1 = .ok ()) : completed result.2
  restores (e : EfiError) (h : result.1 = .error e) : result.2 = db

theorem atomic_error_iff {db db' : Handles} {completed : Handles → Prop} {e : EfiError} :
    Atomic db completed (.error e, db') ↔ db' = db :=
  ⟨fun h => h.restores e rfl, fun h => ⟨nofun, fun _ _ => h⟩⟩

theorem atomic_ok_iff {db db' : Handles} {completed : Handles → Prop} :
    Atomic db completed (.ok (), db') ↔ completed db' :=
  ⟨fun h => h.completes rfl, fun h => ⟨fun _ => h, nofun⟩⟩

/-- The open of the parent by child controller is the agent's only open of it for the child,
as registration leaves it. -/
def OnlyChildOpen (db : Handles) (controller agent handle : EfiHandle) : Prop :=
  db.opensBy controller .dtIo agent handle = {⟨agent, handle, .byChildController⟩}

section Register

variable (db : Handles)

theorem childAdded_install (handle : EfiHandle) (hfree : db.Free handle)
    (interfaces : List (ProtocolGuid × ProtocolInterface))
    (hnodup : (interfaces.map Prod.fst).Nodup) (agent : EfiHandle) :
    ChildAdded db (db.installMultiple handle interfaces) handle interfaces none agent where
  free := hfree
  interface k := by
    obtain ⟨handle', protocol⟩ := k
    split
    · next hk =>
        rw [show handle' = handle from hk, interface_installMultiple _ _ _ hnodup,
          hfree.bare protocol, Option.or_none]
    · next hk => exact interface_installMultiple_of_ne _ _ _ _ hk
  opens k := by
    rw [opens_installMultiple, if_neg nofun]

theorem ChildAdded.link {db db' : Handles} {handle agent : EfiHandle}
    {interfaces : List (ProtocolGuid × ProtocolInterface)}
    (h : ChildAdded db db' handle interfaces none agent) (controller : EfiHandle)
    (hsome : (db'.interface (controller, .dtIo)).isSome) :
    ChildAdded db (db'.addOpen (controller, .dtIo) ⟨agent, handle, .byChildController⟩) handle
      interfaces (some controller) agent where
  free := h.free
  interface := h.interface
  opens k := by
    have hopens (k : EfiHandle × ProtocolGuid) : db'.opens k = db.opens k :=
      (h.opens k).trans (if_neg nofun)
    rw [Database.opens_addOpen _ _ _ _ hsome, hopens, hopens]
    obtain ⟨handle', protocol⟩ := k
    simp only [Prod.mk.injEq, Option.some.injEq, eq_comm (a := controller)]
    split
    · next hk => rw [hk.1, hk.2]
    · rfl

theorem nodup_deviceInterfaces (dtDevice : DtDeviceRecord) :
    ((deviceInterfaces dtDevice).map Prod.fst).Nodup := (by decide : deviceProtocols.Nodup)

/-- What was installed on a new handle, which nobody has open, can be uninstalled again. -/
theorem uninstallMultiple_installMultiple (drivers : StopDrivers) {handle : EfiHandle}
    (hfree : db.Free handle) (interfaces : List (ProtocolGuid × ProtocolInterface))
    (hnodup : (interfaces.map Prod.fst).Nodup) :
    (db.installMultiple handle interfaces).uninstallMultiple drivers (.ok ()) handle
      (interfaces.map Prod.fst) = (.ok (), db) := by
  have hsome (protocol : ProtocolGuid) (h : protocol ∈ interfaces.map Prod.fst) :
      ((db.installMultiple handle interfaces).interface (handle, protocol)).isSome := by
    rw [interface_installMultiple db handle interfaces hnodup, hfree.bare protocol, Option.or_none]
    by_contra hnone
    rw [Option.not_isSome_iff_eq_none, List.lookup_eq_none_iff] at hnone
    obtain ⟨i, hi, rfl⟩ := List.mem_map.mp h
    simpa using hnone i hi
  have hopens (protocol : ProtocolGuid) (_ : protocol ∈ interfaces.map Prod.fst) :
      (db.installMultiple handle interfaces).opens (handle, protocol) = 0 := by
    rw [opens_installMultiple, db.closed _ (hfree.bare protocol)]
  rw [uninstallMultiple, uninstallEach_unopened drivers handle _ hnodup _ hsome hopens,
    uninstallAll_installMultiple db handle interfaces hnodup hfree]

theorem dtDeviceRegister_atomic (drivers : StopDrivers) (services : RegisterServices db)
    (hundo : services.undo = .ok ())
    (dtDevice : DtDeviceRecord) (controller : Option EfiHandle) (agent : EfiHandle) :
    Atomic db
      (fun db' => ∃ handle, ChildAdded db db' handle (deviceInterfaces dtDevice) controller agent)
      (db.dtDeviceRegister drivers services dtDevice controller agent) := by
  rw [dtDeviceRegister]
  cases services.install with
  | error e => exact atomic_error_iff.mpr rfl
  | ok new =>
      obtain ⟨handle, hfree⟩ := new
      have hadded := db.childAdded_install handle hfree (deviceInterfaces dtDevice)
        (nodup_deviceInterfaces dtDevice) agent
      dsimp only
      cases controller with
      | none => exact atomic_ok_iff.mpr ⟨handle, hadded⟩
      | some controller =>
          dsimp only
          obtain ⟨e, hopen⟩ | ⟨hopen, hsome⟩ := openProtocol_cases
            (db.installMultiple handle (deviceInterfaces dtDevice)) services.openChild controller
            .dtIo ⟨agent, handle, .byChildController⟩
          · rw [hopen, hundo]
            exact atomic_error_iff.mpr (congrArg Prod.snd
              (db.uninstallMultiple_installMultiple drivers hfree (deviceInterfaces dtDevice)
                (nodup_deviceInterfaces dtDevice)))
          · rw [hopen]
            exact atomic_ok_iff.mpr ⟨handle, hadded.link controller hsome⟩

theorem childTaken_uninstall (handle : EfiHandle) (protocols : List ProtocolGuid)
    (agent : EfiHandle) :
    ChildTaken db (protocols.foldl (fun db protocol => db.uninstall (handle, protocol)) db) handle
      protocols none agent where
  interface := interface_uninstallAll db handle protocols
  opens k := by
    rw [opens_uninstallAll]
    split
    · rfl
    · rw [if_neg nofun]

theorem childTaken_close_uninstall (handle : EfiHandle) (protocols : List ProtocolGuid)
    (controller agent : EfiHandle) :
    ChildTaken db (protocols.foldl (fun db protocol => db.uninstall (handle, protocol))
      (db.close (controller, .dtIo) (OpenEntry.IsBy agent handle))) handle protocols
      (some controller) agent where
  interface := interface_uninstallAll _ handle protocols
  opens k := by
    obtain ⟨handle', protocol⟩ := k
    rw [opens_uninstallAll, Database.opens_close]
    simp only [Prod.mk.injEq, Option.some.injEq, eq_comm (a := controller)]
    split
    · rfl
    · split
      · next hk => rw [hk.1, hk.2]
      · rfl

variable (drivers : StopDrivers) (status : EfiStatus) (handle : EfiHandle)
  (protocols : List ProtocolGuid) (agent : EfiHandle)

theorem childGone_uninstall (h : ¬ Refused drivers db status handle protocols) :
    ChildGone db (db.uninstallMultiple drivers status handle protocols).2 handle protocols none
      agent := by
  have hok := not_not.mp h
  obtain ⟨hshrinks, hgone⟩ := uninstallMultiple_shrinks drivers db status handle protocols
  refine ⟨hgone hok, nofun, hshrinks, fun hundriven => ?_⟩
  rw [uninstallMultiple_undriven drivers db status handle protocols hundriven hok]
  exact db.childTaken_uninstall handle protocols agent

/-- The opens by the agent for the child are gone once they are closed. -/
theorem Shrinks.unlinked {db' : Handles} {controller : EfiHandle}
    (h : Shrinks (db.close (controller, .dtIo) (OpenEntry.IsBy agent handle)) db') :
    db'.opensBy controller .dtIo agent handle = 0 := by
  refine Multiset.filter_eq_nil.mpr fun e he hby => ?_
  have hclosed := Multiset.mem_of_le (h.opens _) he
  rw [Database.opens_close, if_pos rfl] at hclosed
  exact (Multiset.mem_filter.mp hclosed).2 hby

theorem childGone_close_uninstall (controller : EfiHandle)
    (h : ¬ Refused drivers (db.close (controller, .dtIo) (OpenEntry.IsBy agent handle)) status
      handle protocols) :
    ChildGone db (uninstallMultiple drivers (db.close (controller, .dtIo)
      (OpenEntry.IsBy agent handle)) status handle protocols).2 handle protocols (some controller)
      agent := by
  have hok := not_not.mp h
  obtain ⟨hshrinks, hgone⟩ := uninstallMultiple_shrinks drivers
    (db.close (controller, .dtIo) (OpenEntry.IsBy agent handle)) status handle protocols
  have hclose := shrinks_close db (controller, .dtIo) (OpenEntry.IsBy agent handle)
  refine ⟨hgone hok, ?_, hclose.trans hshrinks, fun hundriven => ?_⟩
  · rintro parent ⟨⟩
    exact hshrinks.unlinked
  · rw [uninstallMultiple_undriven drivers _ status handle protocols
      (fun protocol hprotocol => hclose.undriven (hundriven protocol hprotocol)) hok]
    exact db.childTaken_close_uninstall handle protocols controller agent

/-- Opening the parent again restores what it was if and only if the open was the agent's only one
for the child and nothing else was lost. -/
theorem reopened_eq_iff {db' : Handles} (controller : EfiHandle)
    (hsome : (db.interface (controller, .dtIo)).isSome)
    (h : Shrinks (db.close (controller, .dtIo) (OpenEntry.IsBy agent handle)) db') :
    (db'.openProtocol (.ok ()) controller .dtIo ⟨agent, handle, .byChildController⟩).2 = db ↔
      db.OnlyChildOpen controller agent handle ∧
        db' = db.close (controller, .dtIo) (OpenEntry.IsBy agent handle) := by
  constructor
  · intro hrestored
    have hclosed := h.opens (controller, .dtIo)
    rw [Database.opens_close, if_pos rfl] at hclosed
    obtain ⟨e, hopen⟩ | ⟨hopen, hsome'⟩ := openProtocol_cases db' (.ok ()) controller .dtIo
      ⟨agent, handle, .byChildController⟩
    · rw [openProtocol.eq_def] at hopen
      split at hopen
      · next hnone =>
        rw [openProtocol.eq_def, if_pos hnone] at hrestored
        rw [← hrestored, hnone] at hsome
        exact nomatch hsome
      · exact nomatch hopen
    · rw [hopen] at hrestored
      have hkept : ∀ e ∈ db'.opens (controller, .dtIo), ¬ OpenEntry.IsBy agent handle e :=
        fun e he => (Multiset.mem_filter.mp (Multiset.mem_of_le hclosed he)).2
      have hsame : db' = db.close (controller, .dtIo) (OpenEntry.IsBy agent handle) := by
        rw [← hrestored]
        ext k : 2
        · rfl
        · rw [Database.opens_close, Database.opens_addOpen _ _ _ _ hsome',
            Database.opens_addOpen _ _ _ _ hsome', if_pos rfl,
            Multiset.filter_cons_of_neg (p := (¬ OpenEntry.IsBy agent handle ·)) _
              (not_not_intro ⟨rfl, rfl⟩), Multiset.filter_eq_self.mpr hkept]
          split
          · next hk => rw [hk]
          · rfl
      refine ⟨?_, hsame⟩
      rw [hsame] at hrestored
      exact (Database.addOpen_close_iff hsome).mp hrestored
  · rintro ⟨honly, rfl⟩
    rw [openProtocol_ok (db.close _ _) _ hsome]
    exact (Database.addOpen_close_iff hsome).mpr honly

/-- Opens are lost in the attempt to unregister a device: the uninstall fails and closes some, or
the close before it took more than the open by child controller. -/
def UnregisterLoses (services : UnregisterServices) : Option EfiHandle → Prop
  | none => Refused drivers db services.uninstall handle deviceProtocols ∧
      ¬ Spares drivers db services.uninstall handle deviceProtocols
  | some controller => db.Closes services.close controller .dtIo agent handle ∧
      Refused drivers (db.close (controller, .dtIo) (OpenEntry.IsBy agent handle))
        services.uninstall handle deviceProtocols ∧
      ¬ (db.OnlyChildOpen controller agent handle ∧
        Spares drivers (db.close (controller, .dtIo) (OpenEntry.IsBy agent handle))
          services.uninstall handle deviceProtocols)

theorem dtDeviceUnregister_atomic_iff (services : UnregisterServices)
    (hreopen : services.reopen = .ok ()) (controller : Option EfiHandle) :
    Atomic db (fun db' => ChildGone db db' handle deviceProtocols controller agent)
        (db.dtDeviceUnregister drivers services handle controller agent) ↔
      ¬ db.UnregisterLoses drivers handle agent services controller := by
  cases controller with
  | none =>
      rw [dtDeviceUnregister, UnregisterLoses]
      by_cases hrefused : Refused drivers db services.uninstall handle deviceProtocols
      · obtain ⟨e, hfails⟩ := uninstallMultiple_refused hrefused
        rw [hfails, atomic_error_iff, uninstallMultiple_restores_iff hrefused, not_and, not_not]
        exact ⟨fun hspares _ => hspares, fun hspares => hspares hrefused⟩
      · rw [uninstallMultiple_done hrefused]
        exact iff_of_true (atomic_ok_iff.mpr (db.childGone_uninstall drivers _ handle _ agent
          hrefused)) fun hloses => hrefused hloses.1
  | some controller =>
      rw [dtDeviceUnregister, UnregisterLoses]
      by_cases hcloses : db.Closes services.close controller .dtIo agent handle
      · obtain ⟨hclose, hsome⟩ := closeProtocol_done hcloses
        rw [hclose]
        dsimp only
        by_cases hrefused : Refused drivers (db.close (controller, .dtIo)
          (OpenEntry.IsBy agent handle)) services.uninstall handle deviceProtocols
        · obtain ⟨e, hfails⟩ := uninstallMultiple_refused hrefused
          have hrestores := db.reopened_eq_iff handle agent controller hsome
            (uninstallMultiple_shrinks drivers _ services.uninstall handle deviceProtocols).1
          rw [uninstallMultiple_restores_iff hrefused] at hrestores
          have hnot : ¬ (db.Closes services.close controller .dtIo agent handle ∧
              Refused drivers (db.close (controller, .dtIo) (OpenEntry.IsBy agent handle))
                services.uninstall handle deviceProtocols ∧
              ¬ (db.OnlyChildOpen controller agent handle ∧
                Spares drivers (db.close (controller, .dtIo) (OpenEntry.IsBy agent handle))
                  services.uninstall handle deviceProtocols)) ↔
              db.OnlyChildOpen controller agent handle ∧
                Spares drivers (db.close (controller, .dtIo) (OpenEntry.IsBy agent handle))
                  services.uninstall handle deviceProtocols := by
            rw [and_iff_right hcloses, and_iff_right hrefused, not_not]
          rw [hnot, ← hrestores, hfails, hreopen]
          dsimp only
          generalize Handles.openProtocol _ (.ok ()) controller .dtIo
            ⟨agent, handle, .byChildController⟩ = reopened
          obtain ⟨status, db'⟩ := reopened
          cases status with
          | error e2 => exact atomic_error_iff
          | ok u => exact atomic_error_iff
        · rw [uninstallMultiple_done hrefused]
          exact iff_of_true (atomic_ok_iff.mpr (db.childGone_close_uninstall drivers _ handle _
            agent controller hrefused)) fun hloses => hrefused hloses.2.1
      · obtain ⟨e, hclose⟩ := closeProtocol_refused hcloses
        rw [hclose]
        exact iff_of_true (atomic_error_iff.mpr rfl) fun hloses => hcloses hloses.1

end Register

end Handles

end FdtBusPkg
