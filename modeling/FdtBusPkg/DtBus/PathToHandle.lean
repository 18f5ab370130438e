import FdtBusPkg.DtBus.DriverStart

/-!
`DtPathToHandle` over any world of handles. The services are what the boot services
document, and what a connected driver registers is up to it. A round that goes on has
found a handle whose path is longer than that of the round before and shorter than the
path looked for.
-/
namespace FdtBusPkg

/-- The boot services that `DtPathToHandle` calls, on the handles that have the protocol. -/
structure HandleServices (ω : Type) where
  devicePath : ω → EfiHandle → Option DevicePath
  locateDevicePath : ω → DevicePath → EfiResult (EfiHandle × DevicePath)
  connectController : ω → EfiHandle → DevicePath → EfiStatus × ω

/-- The handle `LocateDevicePath` leaves when it finds none. -/
def NULL_HANDLE : EfiHandle := 0

/-- A call of `ConnectController`. -/
structure ConnectCall where
  handle : EfiHandle
  remaining : DevicePath
  deriving DecidableEq, Repr

namespace HandleServices

variable {ω : Type}

/-- One iteration of `DtPathToHandle`, from the previous handle. -/
def dtPathToHandleBody (services : HandleServices ω) (connect : Bool) (path : DevicePath) :
    Option EfiHandle × ω → Loop.Step (Option EfiHandle × ω) (EfiResult EfiHandle × ω)
  | (previous, w) =>
    match services.locateDevicePath w path with
    | .error e => .exit (if path = [] then .ok NULL_HANDLE else .error e, w)
    | .ok (handle, remaining) =>
      let result (status : EfiError) : EfiResult EfiHandle :=
        if remaining = [] then .ok handle else .error status
      if !connect then
        .exit (result .notFound, w)
      else if previous = some handle then
        .exit (result .notFound, w)
      else
        match services.connectController w handle remaining with
        | (.error e, w) => .exit (result e, w)
        | (.ok _, w) =>
          if remaining = [] then .exit (.ok handle, w) else .next (some handle, w)

def dtPathToHandle (services : HandleServices ω) (connect : Bool) (path : DevicePath)
    (fuel : Nat) (w : ω) : Option (EfiResult EfiHandle × ω) :=
  Loop.run (services.dtPathToHandleBody connect path) fuel (none, w)

def logged (services : HandleServices ω) : HandleServices (ω × List ConnectCall) where
  devicePath w := services.devicePath w.1
  locateDevicePath w := services.locateDevicePath w.1
  connectController w handle remaining :=
    let answer := services.connectController w.1 handle remaining
    (answer.1, answer.2, w.2 ++ [⟨handle, remaining⟩])

/-- What the boot services document, in the worlds that `Good` admits: the handle with
the longest matching path is located, no two handles have one path, and connecting
removes no handle. -/
structure Documented (services : HandleServices ω) (Good : ω → Prop) : Prop where
  located (w : ω) (hw : Good w) (path : DevicePath) (handle : EfiHandle)
    (remaining : DevicePath) (h : services.locateDevicePath w path = .ok (handle, remaining)) :
    ∃ begins, services.devicePath w handle = some begins ∧ path = begins ++ remaining ∧
      ∀ other key, services.devicePath w other = some key → key <+: path →
        key.length ≤ begins.length
  notLocated (w : ω) (hw : Good w) (path : DevicePath) (e : EfiError)
    (h : services.locateDevicePath w path = .error e) (handle : EfiHandle) (key : DevicePath)
    (hkey : services.devicePath w handle = some key) : ¬ key <+: path
  distinct (w : ω) (hw : Good w) (handle other : EfiHandle) (key : DevicePath)
    (hkey : services.devicePath w handle = some key)
    (hother : services.devicePath w other = some key) : handle = other
  connected_good (w : ω) (hw : Good w) (handle : EfiHandle) (remaining : DevicePath) :
    Good (services.connectController w handle remaining).2
  connected (w : ω) (hw : Good w) (handle : EfiHandle) (remaining : DevicePath)
    (other : EfiHandle) (key : DevicePath) (hkey : services.devicePath w other = some key) :
    services.devicePath (services.connectController w handle remaining).2 other = some key

section Logged

variable (services : HandleServices ω) (connect : Bool) (path : DevicePath)

theorem dtPathToHandle_logged (fuel : Nat) (w : ω) (calls : List ConnectCall) :
    services.dtPathToHandle connect path fuel w =
      (services.logged.dtPathToHandle connect path fuel (w, calls)).map
        fun r => (r.1, r.2.1) := by
  refine Loop.run_map (services.logged.dtPathToHandleBody connect path)
    (services.dtPathToHandleBody connect path) (fun s => (s.1, s.2.1)) _ ?_ fuel (none, w, calls)
  rintro ⟨previous, w, calls⟩
  simp only [dtPathToHandleBody, logged]
  rcases services.locateDevicePath w path with e | ⟨handle, remaining⟩
  · rfl
  · dsimp only
    by_cases hconnect : (!connect) = true
    · rw [if_pos hconnect, if_pos hconnect]
      rfl
    · rw [if_neg hconnect, if_neg hconnect]
      by_cases hsame : previous = some handle
      · rw [if_pos hsame, if_pos hsame]
        rfl
      · rw [if_neg hsame, if_neg hsame]
        rcases services.connectController w handle remaining with ⟨e | _, w'⟩
        · rfl
        · by_cases hend : remaining = []
          · simp only [if_pos hend, Loop.Step.map]
          · simp only [if_neg hend, Loop.Step.map]

end Logged

def ResultExact (services : HandleServices ω) (path : DevicePath)
    (r : EfiResult EfiHandle × ω × List ConnectCall) : Prop :=
  ∀ handle, r.1 = .ok handle → services.devicePath r.2.1 handle = some path

/-- At most `rounds` more rounds can be made: each finds a longer path than the
previous one, short of the whole path. -/
def RoundsLeft (services : HandleServices ω) (path : DevicePath) (rounds : Nat) (w : ω) :
    Option EfiHandle → Prop
  | none => path.length + 1 ≤ rounds
  | some handle => ∃ begins, services.devicePath w handle = some begins ∧ begins <+: path ∧
      begins.length < path.length ∧ path.length ≤ begins.length + rounds

section Rounds

variable {services : HandleServices ω} {Good : ω → Prop} (h : services.Documented Good)
include h

theorem Documented.begins_longer {path begins remaining : DevicePath} {handle : EfiHandle}
    {previous : Option EfiHandle} {w : ω} {rounds : Nat} (hw : Good w)
    (hlocated : services.locateDevicePath w path = .ok (handle, remaining))
    (hbegins : services.devicePath w handle = some begins)
    (hleft : services.RoundsLeft path (rounds + 1) w previous)
    (hother : previous ≠ some handle) :
    path.length ≤ begins.length + rounds := by
  obtain ⟨found, hfound, hpath, hlongest⟩ := h.located w hw path handle remaining hlocated
  have hsame : found = begins := Option.some.inj (hfound.symm.trans hbegins)
  subst hsame
  cases previous with
  | none =>
      have hrounds : path.length + 1 ≤ rounds + 1 := hleft
      omega
  | some last =>
      obtain ⟨key, hkey, hprefix, -, hrounds⟩ := hleft
      have hle := hlongest last key hkey hprefix
      have hne : key.length ≠ found.length := by
        intro hlength
        have hfoundPrefix : found <+: path := ⟨remaining, hpath.symm⟩
        have hsame := (List.prefix_of_prefix_length_le hprefix hfoundPrefix hle).eq_of_length
          hlength
        exact hother (congrArg some (h.distinct w hw last handle key hkey (hsame ▸ hfound)))
      omega

/-- One round: the loop is left with at most one more connect and an exact result, or
goes on with one round less to make. -/
theorem Documented.round {path : DevicePath} (hpath : path ≠ []) {previous : Option EfiHandle}
    {w : ω} (hw : Good w) (calls : List ConnectCall) {rounds : Nat}
    (hleft : services.RoundsLeft path (rounds + 1) w previous) :
    (∃ r, services.logged.dtPathToHandleBody true path (previous, w, calls) = .exit r ∧
      r.2.2.length ≤ calls.length + 1 ∧ services.ResultExact path r) ∨
    ∃ handle w' call, services.logged.dtPathToHandleBody true path (previous, w, calls) =
        .next (some handle, w', calls ++ [call]) ∧
      Good w' ∧ services.RoundsLeft path rounds w' (some handle) := by
  simp only [dtPathToHandleBody, logged]
  cases hlocated : services.locateDevicePath w path with
  | error e =>
      simp only [if_neg hpath]
      exact Or.inl ⟨_, rfl, Nat.le_succ _, fun handle hok => nomatch hok⟩
  | ok found =>
      obtain ⟨handle, remaining⟩ := found
      obtain ⟨begins, hbegins, hparts, -⟩ := h.located w hw path handle remaining hlocated
      have hexact (hend : remaining = []) : begins = path := by
        rw [hparts, hend, List.append_nil]
      simp only [Bool.not_true, Bool.false_eq_true, if_false]
      by_cases hsame : previous = some handle
      · simp only [if_pos hsame]
        refine Or.inl ⟨_, rfl, Nat.le_succ _, fun other hok => ?_⟩
        by_cases hend : remaining = []
        · simp only [if_pos hend, Except.ok.injEq] at hok
          rw [← hok, hbegins, hexact hend]
        · simp only [if_neg hend] at hok
          exact nomatch hok
      · simp only [if_neg hsame]
        have hkept := h.connected w hw handle remaining handle begins hbegins
        have hgood := h.connected_good w hw handle remaining
        generalize services.connectController w handle remaining = answer at hkept hgood
        obtain ⟨e | _, w'⟩ := answer
        · refine Or.inl ⟨_, rfl, by simp, fun other hok => ?_⟩
          by_cases hend : remaining = []
          · simp only [if_pos hend, Except.ok.injEq] at hok
            exact hok ▸ hkept.trans (congrArg some (hexact hend))
          · simp only [if_neg hend] at hok
            exact nomatch hok
        · by_cases hend : remaining = []
          · simp only [if_pos hend]
            refine Or.inl ⟨_, rfl, by simp, fun other hok => ?_⟩
            exact Except.ok.inj hok ▸ hkept.trans (congrArg some (hexact hend))
          · simp only [if_neg hend]
            have hshorter : begins.length < path.length := by
              have := List.length_pos_iff.mpr hend
              rw [hparts, List.length_append]
              omega
            exact Or.inr ⟨handle, w', _, rfl, hgood, begins, hkept, ⟨remaining, hparts.symm⟩,
              hshorter, h.begins_longer hw hlocated hbegins hleft hsame⟩

/-- The rounds from any of them on: the loop ends in time, each round connects at most
once, and the result is exact. -/
theorem Documented.rounds {path : DevicePath} (hpath : path ≠ []) {previous : Option EfiHandle}
    {w : ω} (hw : Good w) (calls : List ConnectCall) {rounds : Nat}
    (hleft : services.RoundsLeft path rounds w previous) :
    ∃ r, Loop.run (services.logged.dtPathToHandleBody true path) rounds (previous, w, calls) =
        some r ∧ r.2.2.length ≤ calls.length + rounds ∧ services.ResultExact path r := by
  induction rounds generalizing previous w calls with
  | zero =>
      cases previous with
      | none => exact absurd hleft (Nat.not_succ_le_zero path.length)
      | some last =>
          obtain ⟨key, -, -, hlt, hle⟩ := hleft
          omega
  | succ rounds ih =>
      obtain ⟨r, hexit, hcalls, hexact⟩ | ⟨handle, w', call, hnext, hgood, hmore⟩ :=
        h.round hpath hw calls hleft
      · exact ⟨r, Loop.run_exit _ rounds _ r hexit, by omega, hexact⟩
      · obtain ⟨r, hrun, hcalls, hexact⟩ := ih hgood (calls ++ [call]) hmore
        rw [List.length_append, List.length_singleton] at hcalls
        exact ⟨r, by rw [Loop.run_next _ rounds _ _ hnext, hrun], by omega, hexact⟩

theorem Documented.look {path : DevicePath} (hpath : path ≠ []) {w : ω} (hw : Good w)
    (calls : List ConnectCall) :
    ∃ r, services.logged.dtPathToHandle false path 1 (w, calls) = some (r, w, calls) ∧
      services.ResultExact path (r, w, calls) ∧
      ((∃ handle, r = .ok handle) ↔ ∃ handle, services.devicePath w handle = some path) := by
  cases hlocated : services.locateDevicePath w path with
  | error e =>
      refine ⟨.error e, ?_, ?_, ?_⟩
      · refine Loop.run_exit _ 0 _ _ ?_
        simp only [dtPathToHandleBody, logged, hlocated, if_neg hpath]
      · exact fun handle hok => nomatch hok
      · refine iff_of_false (fun hok => nomatch hok.choose_spec) ?_
        rintro ⟨handle, hkey⟩
        exact h.notLocated w hw path e hlocated handle path hkey List.prefix_rfl
  | ok found =>
      obtain ⟨handle, remaining⟩ := found
      obtain ⟨begins, hbegins, hparts, hlongest⟩ :=
        h.located w hw path handle remaining hlocated
      refine ⟨if remaining = [] then .ok handle else .error .notFound, ?_, ?_, ?_⟩
      · refine Loop.run_exit _ 0 _ _ ?_
        simp only [dtPathToHandleBody, logged, hlocated, Bool.not_false, if_true]
      · intro other hok
        by_cases hend : remaining = []
        · simp only [if_pos hend, Except.ok.injEq] at hok
          rw [← hok, hbegins, hparts, hend, List.append_nil]
        · simp only [if_neg hend] at hok
          exact nomatch hok
      · by_cases hend : remaining = []
        · rw [if_pos hend]
          refine iff_of_true ⟨handle, rfl⟩ ⟨handle, ?_⟩
          rw [hbegins, hparts, hend, List.append_nil]
        · rw [if_neg hend]
          refine iff_of_false (fun hok => nomatch hok.choose_spec) ?_
          rintro ⟨other, hkey⟩
          have hle := hlongest other path hkey List.prefix_rfl
          have hlength := congrArg List.length hparts
          rw [List.length_append] at hlength
          have := List.length_pos_iff.mpr hend
          omega

end Rounds

end HandleServices

def registryServices (connect : ConnectController) : HandleServices Registry where
  devicePath σ handle := (σ.find handle).map (·.devicePath)
  locateDevicePath σ path :=
    match σ.locateDevicePath path with
    | none => .error .notFound
    | some (found, remaining) => .ok (found.handle, remaining)
  connectController σ handle remaining := connect σ handle remaining

/-- A handle carries one device, and no two devices have one path. -/
structure Registry.PathsDistinct (σ : Registry) : Prop where
  handles : σ.handles.Nodup
  paths : (σ.devices.map (·.devicePath)).Nodup

/-- Connected drivers register devices, no two with one path, and remove none. -/
structure ConnectAdds (connect : ConnectController) (Good : Registry → Prop) : Prop where
  distinct (σ : Registry) (hσ : Good σ) : σ.PathsDistinct
  good (σ : Registry) (hσ : Good σ) (handle : EfiHandle) (remaining : DevicePath) :
    Good (connect σ handle remaining).2
  keeps (σ : Registry) (hσ : Good σ) (handle : EfiHandle) (remaining : DevicePath) :
    σ.devices ⊆ (connect σ handle remaining).2.devices

theorem Registry.PathsDistinct.devicePath_iff {σ : Registry} (hσ : σ.PathsDistinct)
    (connect : ConnectController) (handle : EfiHandle) (path : DevicePath) :
    (registryServices connect).devicePath σ handle = some path ↔
      ∃ d ∈ σ.devices, d.handle = handle ∧ d.devicePath = path := by
  simp only [registryServices, Registry.find, Option.map_eq_some_iff]
  constructor
  · rintro ⟨d, hfind, hd⟩
    exact ⟨d, List.mem_of_find?_eq_some hfind, by simpa using List.find?_some hfind, hd⟩
  · rintro ⟨d, hd, hhandle, hpath⟩
    obtain ⟨e, hfind⟩ := Option.isSome_iff_exists.mp
      (List.find?_isSome (p := fun d => decide (d.handle = handle)) |>.mpr
        ⟨d, hd, decide_eq_true hhandle⟩)
    have he : e.handle = handle := by simpa using List.find?_some hfind
    have hsame : e = d := List.inj_on_of_nodup_map hσ.handles
      (List.mem_of_find?_eq_some hfind) hd (he.trans hhandle.symm)
    exact ⟨e, hfind, hsame ▸ hpath⟩

theorem registryServices_documented {connect : ConnectController} {Good : Registry → Prop}
    (h : ConnectAdds connect Good) : (registryServices connect).Documented Good where
  located σ hσ path handle remaining hlocated := by
    simp only [registryServices, Registry.locateDevicePath] at hlocated
    cases hsearch : LongestPrefix.search (·.devicePath) path σ.devices with
    | none => simp [hsearch] at hlocated
    | some best =>
        have hbest := LongestPrefix.search_some (·.devicePath) path σ.devices best hsearch
        simp only [hsearch, Option.map_some, Except.ok.injEq, Prod.mk.injEq] at hlocated
        obtain ⟨hhandle, hremaining⟩ := hlocated
        refine ⟨best.devicePath, ((h.distinct σ hσ).devicePath_iff connect handle _).mpr
          ⟨best, hbest.mem, hhandle, rfl⟩, ?_, fun other key hkey hprefix => ?_⟩
        · rw [← hremaining]
          exact (List.prefix_iff_eq_append.mp hbest.isPrefix).symm
        · obtain ⟨d, hd, -, hpath⟩ := ((h.distinct σ hσ).devicePath_iff connect other key).mp hkey
          exact hpath ▸ hbest.longest d hd (hpath.symm ▸ hprefix)
  notLocated σ hσ path e hlocated handle key hkey := by
    obtain ⟨d, hd, -, hpath⟩ := ((h.distinct σ hσ).devicePath_iff connect handle key).mp hkey
    simp only [registryServices, Registry.locateDevicePath] at hlocated
    cases hsearch : LongestPrefix.search (·.devicePath) path σ.devices with
    | none =>
        have hnone := (LongestPrefix.search_none (·.devicePath) path σ.devices).mp hsearch
        exact hpath ▸ hnone d hd
    | some best => simp [hsearch] at hlocated
  distinct σ hσ handle other key hkey hother := by
    obtain ⟨d, hd, hhandle, hpath⟩ := ((h.distinct σ hσ).devicePath_iff connect handle key).mp hkey
    obtain ⟨d', hd', hhandle', hpath'⟩ :=
      ((h.distinct σ hσ).devicePath_iff connect other key).mp hother
    have hsame := List.inj_on_of_nodup_map (h.distinct σ hσ).paths hd hd' (hpath.trans hpath'.symm)
    rw [← hhandle, ← hhandle', hsame]
  connected_good := h.good
  connected σ hσ handle remaining other key hkey := by
    obtain ⟨d, hd, hhandle, hpath⟩ := ((h.distinct σ hσ).devicePath_iff connect other key).mp hkey
    exact ((h.distinct _ (h.good σ hσ handle remaining)).devicePath_iff connect other key).mpr
      ⟨d, h.keeps σ hσ handle remaining hd, hhandle, hpath⟩

theorem registryServices_dtPathToHandle (connect : ConnectController) (flag : Bool)
    (path : DevicePath) (hpath : path ≠ []) (fuel : Nat) (σ : Registry) :
    (registryServices connect).dtPathToHandle flag path fuel σ =
      dtPathToHandle (if flag then some connect else none) path fuel σ := by
  rw [HandleServices.dtPathToHandle, dtPathToHandle]
  congr 1
  funext s
  obtain ⟨previous, σ⟩ := s
  simp only [HandleServices.dtPathToHandleBody, dtPathToHandleBody, registryServices]
  rcases σ.locateDevicePath path with _ | ⟨found, remaining⟩
  · simp only [if_neg hpath]
  · cases flag with
    | false => rfl
    | true =>
        simp only [Bool.not_true, Bool.false_eq_true, if_false, if_true]
        by_cases hsame : previous = some found.handle
        · simp only [if_pos hsame]
        · simp only [if_neg hsame]
          rcases connect σ found.handle remaining with ⟨_ | _, σ'⟩ <;> rfl

/-- Path resolution ends after at most one connect for each node of the path and one more,
finds only the handle with the whole path, and without connecting finds it whenever there
is one. -/
theorem dtPathToHandle_exact {ω : Type} (services : HandleServices ω) (Good : ω → Prop)
    (h : services.Documented Good) (path : DevicePath) (hpath : path ≠ []) (w : ω)
    (hw : Good w) :
    (∃ r, services.dtPathToHandle true path (path.length + 1) w = some (r.1, r.2.1) ∧
      services.logged.dtPathToHandle true path (path.length + 1) (w, []) = some r ∧
      r.2.2.length ≤ path.length + 1 ∧ services.ResultExact path r) ∧
    (∃ r, services.dtPathToHandle false path 1 w = some (r, w) ∧
      services.logged.dtPathToHandle false path 1 (w, []) = some (r, w, []) ∧
      services.ResultExact path (r, w, []) ∧
      ((∃ handle, r = .ok handle) ↔ ∃ handle, services.devicePath w handle = some path)) := by
  constructor
  · have hleft : services.RoundsLeft path (path.length + 1) w none := Nat.le_refl _
    obtain ⟨r, hrun, hcalls, hexact⟩ := h.rounds hpath hw [] hleft
    refine ⟨r, ?_, hrun, by simpa using hcalls, hexact⟩
    exact (services.dtPathToHandle_logged true path _ w []).trans
      (congrArg (Option.map fun r => (r.1, r.2.1)) hrun)
  · obtain ⟨r, hrun, hexact, hfound⟩ := h.look hpath hw []
    refine ⟨r, ?_, hrun, hexact, hfound⟩
    exact (services.dtPathToHandle_logged false path 1 w []).trans
      (congrArg (Option.map fun r => (r.1, r.2.1)) hrun)

theorem startController_adds (b : RootedBus) (services : ScanServices) (agent : EfiHandle) :
    ConnectAdds (startController b.bus services agent) (BoundInv b.bus b.root) where
  distinct _ hσ := ⟨hσ.handles, hσ.paths⟩
  good _ hσ handle remaining := (startController_inv hσ b.sound services agent handle remaining).1
  keeps _ hσ handle remaining := (startController_inv hσ b.sound services agent handle remaining).2

/-- The bus driver, connected to the root, registers the child that the path leads to. -/
theorem dtPathToHandle_exact_root :
    let services := registryServices (startController oneChildDriver nextServices 7)
    let w := oneChildBus.initial
    let path := [dtPathNode [0x44], dtPathNode [0x61]]
    (services.dtPathToHandle true path 3 w).map (·.1) = some (.ok onlyChild.handle) ∧
    (∃ r, services.dtPathToHandle true path 3 w = some (r.1, r.2.1) ∧
      services.logged.dtPathToHandle true path 3 (w, []) = some r ∧
      r.2.2.length ≤ 3 ∧ services.ResultExact path r) ∧
    (∃ r, services.dtPathToHandle false path 1 w = some (r, w) ∧
      services.logged.dtPathToHandle false path 1 (w, []) = some (r, w, []) ∧
      services.ResultExact path (r, w, []) ∧
      ((∃ handle, r = .ok handle) ↔ ∃ handle, services.devicePath w handle = some path)) :=
  ⟨rfl, dtPathToHandle_exact (registryServices (startController oneChildDriver nextServices 7))
    (BoundInv oneChildDriver oneChildBus.root)
    (registryServices_documented (startController_adds oneChildBus nextServices 7)) _
    (List.cons_ne_nil _ _) oneChildBus.initial oneChildBus.boundInv⟩

end FdtBusPkg
