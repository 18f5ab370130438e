import FdtBusPkg.DtBus.Environment
import FdtBusPkg.DtBus.EndOfDxe
import FdtBusPkg.DtBus.Gcd
import FdtBusPkg.DtBus.Lookup

/-!
Every way of naming a device, over a devicetree with every node registered: the
absolute path, the path from an ancestor, an alias and a phandle. The search for the
longest matching path finds the device itself, since its path is the one asked for,
and a path that names no node is the path of no device.
-/
namespace FdtBusPkg

def FDT_ERR_NOSPACE : Int := 3

/-- One iteration of the loop that grows the buffer for `fdt_get_path`, from the size of
the last one. -/
def nodePathBody (getPath : Nat → Except Int AsciiStr) (pathSize : Nat) :
    Loop.Step Nat (EfiResult AsciiStr) :=
  let pathSize := pathSize + EFI_PAGE_SIZE.toNat
  match getPath pathSize with
  | .ok path => .exit (.ok path)
  | .error fdtRet =>
    if fdtRet = -FDT_ERR_NOSPACE then .next pathSize else .exit (.error .deviceError)

def ofAscii (s : AsciiStr) : String := String.ofList (s.map fun c => Char.ofNat c.toNat)

def toAscii (s : String) : AsciiStr := s.toList.map fun c => BitVec.ofNat 8 c.toNat

/-- A devicetree with every node registered, and the queries on its phandles and paths. -/
structure RegisteredTree where
  tree : DtTree
  sound : tree.Sound
  proper : tree.ProperNames
  rootName : AsciiStr
  root : DtDeviceRecord
  registry : Registry
  placed : DevicesPlaced tree rootName registry
  root_mem : root ∈ registry.devices
  root_node : root.fdtNode = tree.rootNode
  registered (names : List AsciiStr) (n : Int) (h : tree.Below tree.rootNode names n) :
    ∃ d ∈ registry.devices, d.fdtNode = n
  nodeOffsetByPhandle : U32 → Int
  offset_nonneg (names : List AsciiStr) (n : Int) (h : tree.Below tree.rootNode names n) : 0 ≤ n
  /-- `fdt_get_path` of a node into a buffer of a size. -/
  getPath : Int → Nat → Except Int AsciiStr
  getPath_eq (names : List AsciiStr) (n : Int) (size : Nat)
    (h : tree.Below tree.rootNode names n) : getPath n size =
      if (absolutePath names).length < size then .ok (absolutePath names)
      else .error (-FDT_ERR_NOSPACE)

namespace RegisteredTree

/-- The surroundings of the property parsers, with the loops run for some iterations. -/
def dtBus (b : RegisteredTree) (connectController : ConnectController) (fuel : Nat) : DtBus where
  fdt := b.tree.toFdt
  nodeOffsetByPhandle := b.nodeOffsetByPhandle
  nodePath node :=
    match Loop.run (nodePathBody (b.getPath node)) fuel 0 with
    | none => .error .timeout
    | some result => result.map ofAscii
  lookup device path connect :=
    match b.registry.devices.find? fun d => d.device = device with
    | none => .error .invalidParameter
    | some d =>
      match dtIoLookup b.tree b.root connectController b.registry d (toAscii path) connect
        fuel with
      | none => .error .timeout
      | some result => result.1
  handleProtocol handle :=
    match b.registry.find handle with
    | none => .error .unsupported
    | some d => .ok d.device

def LooksUp (b : RegisteredTree) (connectController : ConnectController)
    (device : DtDeviceRecord) (path : AsciiStr) (connect : Bool)
    (result : EfiResult EfiHandle) : Prop :=
  ∀ fuel, 2 ≤ fuel → ∃ σ, dtIoLookup b.tree b.root connectController b.registry device path
    connect fuel = some (result, σ)

/-- The drivers connected register devices of nodes only and remove none. -/
structure Keeps (b : RegisteredTree) (connectController : ConnectController) : Prop where
  placed (handle : EfiHandle) (remaining : DevicePath) :
    DevicesPlaced b.tree b.rootName (connectController b.registry handle remaining).2
  kept (handle : EfiHandle) (remaining : DevicePath) (d : DtDeviceRecord)
    (hd : d ∈ b.registry.devices) : d ∈ (connectController b.registry handle remaining).2.devices

end RegisteredTree

/-- The names are written with a slash between them; one more may close the last name. -/
def Spells (names : List AsciiStr) (path : AsciiStr) : Prop :=
  path = relativePath names ∨ (names ≠ [] ∧ path = relativePath names ++ [SLASH])

instance (names : List AsciiStr) (path : AsciiStr) : Decidable (Spells names path) :=
  inferInstanceAs (Decidable (_ ∨ _))

/-- The nodes that a path names, seen from a node. -/
inductive DtTree.PathNames (t : DtTree) (start : Int) : AsciiStr → Int → Prop
  | absolute {names : List AsciiStr} {path : AsciiStr} {n : Int} (hpath : Spells names path)
      (hbelow : t.Below t.rootNode names n) : PathNames t start (SLASH :: path) n
  | relative {names : List AsciiStr} {path : AsciiStr} {n : Int} (hpath : Spells names path)
      (hbelow : t.Below start names n) : PathNames t start path n

/-- The ways of naming a device agree, whatever the drivers connected do. -/
structure NamingAgrees (b : RegisteredTree) : Prop where
  byPath (device d : DtDeviceRecord) (hdevice : device ∈ b.registry.devices)
    (hd : d ∈ b.registry.devices) (names : List AsciiStr)
    (hnames : b.tree.Below b.tree.rootNode names d.fdtNode)
    (connectController : ConnectController) (connect : Bool) :
    b.LooksUp connectController device (absolutePath names) connect (.ok d.handle)
  byRelativePath (device d : DtDeviceRecord) (hdevice : device ∈ b.registry.devices)
    (hd : d ∈ b.registry.devices) (names : List AsciiStr)
    (hnames : b.tree.Below device.fdtNode names d.fdtNode)
    (halias : b.tree.getAlias (relativePath names) = none)
    (connectController : ConnectController) (connect : Bool) :
    b.LooksUp connectController device (relativePath names) connect (.ok d.handle)
  byAlias (device d : DtDeviceRecord) (hdevice : device ∈ b.registry.devices)
    (hd : d ∈ b.registry.devices) (name : AsciiStr) (names : List AsciiStr)
    (hnames : b.tree.Below b.tree.rootNode names d.fdtNode)
    (halias : b.tree.getAlias name = some (absolutePath names))
    (connectController : ConnectController) (connect : Bool) :
    b.LooksUp connectController device name connect (.ok d.handle)
  byPhandle (device d : DtDeviceRecord) (hdevice : device ∈ b.registry.devices)
    (hd : d ∈ b.registry.devices) (p q : DtProperty) (index : Nat) (phandle : U32)
    (hparse : dtIoParsePropU32 b.tree.mem p index = (.ok phandle, q))
    (hphandle : b.nodeOffsetByPhandle phandle = d.fdtNode)
    (connectController : ConnectController) :
    ∃ enough, ∀ fuel, enough ≤ fuel →
      dtIoParsePropDevice (b.dtBus connectController fuel) device.device p index =
        (.ok d.handle, q)
  unnamed (device : DtDeviceRecord) (hdevice : device ∈ b.registry.devices) (path : AsciiStr)
    (hterminated : 0 ∉ path) (halias : b.tree.getAlias path = none)
    (hnone : ∀ n, ¬ b.tree.PathNames device.fdtNode path n)
    (connectController : ConnectController) (connect : Bool)
    (hkeeps : connect = true → b.Keeps connectController) :
    ∃ e, b.LooksUp connectController device path connect (.error e)

section Search

variable {σ : Registry} {path : DevicePath}

theorem dtPathToHandle_found (connect : Option ConnectController)
    (hpaths : (σ.devices.map (·.devicePath)).Nodup) (d : DtDeviceRecord) (hd : d ∈ σ.devices)
    (hpath : d.devicePath = path) :
    ∃ σ', dtPathToHandle connect path 1 σ = some (.ok d.handle, σ') := by
  obtain ⟨best, hsearch, hmem, hkey⟩ :=
    LongestPrefix.exact_found (·.devicePath) path σ.devices d hd hpath
  have hsame : best = d := List.inj_on_of_nodup_map hpaths hmem hd (hkey.trans hpath.symm)
  subst hsame
  have hlocate : σ.locateDevicePath path = some (best, []) := by
    rw [Registry.locateDevicePath, hsearch, Option.map_some, hkey, List.drop_length]
  cases connect with
  | none => exact ⟨σ, by simp [dtPathToHandle, Loop.run, dtPathToHandleBody, hlocate]⟩
  | some connectController =>
      refine ⟨(connectController σ best.handle []).2, ?_⟩
      cases hconnect : connectController σ best.handle [] with
      | mk status σ' =>
          cases status with
          | error e => simp [dtPathToHandle, Loop.run, dtPathToHandleBody, hlocate, hconnect]
          | ok u => simp [dtPathToHandle, Loop.run, dtPathToHandleBody, hlocate, hconnect]

/-- No device is at the path, so the first handle found is not the one asked for. -/
theorem locateDevicePath_missing (hmissing : ∀ d ∈ σ.devices, d.devicePath ≠ path) :
    σ.locateDevicePath path = none ∨ ∃ found remaining,
      LongestPrefix.IsBest (·.devicePath) path σ.devices found ∧ remaining ≠ [] ∧
        σ.locateDevicePath path = some (found, remaining) := by
  rw [Registry.locateDevicePath]
  cases hsearch : LongestPrefix.search (·.devicePath) path σ.devices with
  | none => exact .inl rfl
  | some found =>
      have hbest := LongestPrefix.search_some _ _ _ _ hsearch
      refine .inr ⟨found, path.drop found.devicePath.length, hbest, fun hdone => ?_, rfl⟩
      exact hmissing found hbest.mem
        (hbest.isPrefix.eq_of_length_le (List.drop_eq_nil_iff.mp hdone))

/-- Connecting that leaves the same devices does not make up for a missing one. -/
theorem dtPathToHandle_missing (connect : Option ConnectController)
    (hpaths : (σ.devices.map (·.devicePath)).Nodup)
    (hmissing : ∀ d ∈ σ.devices, d.devicePath ≠ path)
    (hsame : ∀ c ∈ connect, ∀ handle remaining d,
      d ∈ σ.devices ↔ d ∈ (c σ handle remaining).2.devices) :
    ∃ e σ', dtPathToHandle connect path 2 σ = some (.error e, σ') := by
  obtain hnone | ⟨found, remaining, hbest, hremaining, hlocate⟩ :=
    locateDevicePath_missing hmissing
  · exact ⟨.notFound, σ, by simp [dtPathToHandle, Loop.run, dtPathToHandleBody, hnone]⟩
  · cases connect with
    | none =>
        refine ⟨.notFound, σ, ?_⟩
        simp [dtPathToHandle, Loop.run, dtPathToHandleBody, hlocate, hremaining]
    | some connectController =>
        have hdevices := hsame connectController rfl found.handle remaining
        cases hconnect : connectController σ found.handle remaining with
        | mk status σ' =>
            rw [hconnect] at hdevices
            cases status with
            | error e =>
                refine ⟨e, σ', ?_⟩
                simp [dtPathToHandle, Loop.run, dtPathToHandleBody, hlocate, hremaining, hconnect]
            | ok u =>
                have hmissing' : ∀ d ∈ σ'.devices, d.devicePath ≠ path :=
                  fun d hd => hmissing d ((hdevices d).mpr hd)
                refine ⟨.notFound, σ', ?_⟩
                obtain hnone' | ⟨found', remaining', hbest', hremaining', hlocate'⟩ :=
                  locateDevicePath_missing hmissing'
                · simp [dtPathToHandle, Loop.run, dtPathToHandleBody, hlocate, hremaining,
                    hconnect, hnone']
                · have hagain : found = found' := hbest.unique hbest' hdevices hpaths
                  subst hagain
                  simp [dtPathToHandle, Loop.run, dtPathToHandleBody, hlocate, hremaining,
                    hconnect, hlocate', hremaining']

end Search

namespace RegisteredTree

variable (b : RegisteredTree) {device d : DtDeviceRecord} {names : List AsciiStr}

theorem devicePath_below (hdevice : device ∈ b.registry.devices) (hd : d ∈ b.registry.devices)
    (hbelow : b.tree.Below device.fdtNode names d.fdtNode) :
    d.devicePath = device.devicePath ++ names.map dtPathNode := by
  obtain ⟨above, habove, hdevicePath⟩ := b.placed.spelled device hdevice
  obtain ⟨all, hall, hpath⟩ := b.placed.spelled d hd
  have hjoined : b.tree.Below b.tree.rootNode (above ++ names) d.fdtNode :=
    (DtTree.below_append _ _ _ _).mpr ⟨device.fdtNode, habove, hbelow⟩
  rw [hpath, hdevicePath, hall.names_unique hjoined b.sound, devicePathOf, devicePathOf,
    List.map_append, List.cons_append]

/-- The node of a device whose path is that of another one with names appended. -/
theorem below_of_devicePath (hdevice : device ∈ b.registry.devices)
    (hd : d ∈ b.registry.devices) (hterminated : ∀ name ∈ names, 0 ∉ name)
    (hpath : d.devicePath = device.devicePath ++ names.map dtPathNode) :
    b.tree.Below device.fdtNode names d.fdtNode := by
  obtain ⟨above, habove, hdevicePath⟩ := b.placed.spelled device hdevice
  obtain ⟨all, hall, hwhole⟩ := b.placed.spelled d hd
  rw [hwhole, hdevicePath, devicePathOf, devicePathOf, List.cons_append,
    ← List.map_append] at hpath
  have hshort (name : AsciiStr) (hname : name ∈ all) : ShortName name := by
    obtain ⟨m, hm⟩ := hall.getName name hname
    exact b.proper.short m name hm
  have hzero (name : AsciiStr) (hname : name ∈ above ++ names) : 0 ∉ name := by
    cases List.mem_append.mp hname with
    | inl habove' =>
        obtain ⟨m, hm⟩ := habove.getName name habove'
        exact b.sound.terminated m name hm
    | inr hnames => exact hterminated name hnames
  have hsame := names_of_nodes all (above ++ names) hshort hzero (List.cons.inj hpath).2
  rw [← hsame, DtTree.below_append] at hall
  obtain ⟨m, hm, hbelow⟩ := hall
  exact habove.node_unique hm b.sound ▸ hbelow

/-- Connecting neither adds nor removes a device, since all of them are registered. -/
theorem Keeps.same {b : RegisteredTree} {connectController : ConnectController}
    (h : b.Keeps connectController) (handle : EfiHandle) (remaining : DevicePath)
    (d : DtDeviceRecord) : d ∈ b.registry.devices ↔
      d ∈ (connectController b.registry handle remaining).2.devices := by
  refine ⟨h.kept handle remaining d, fun hd => ?_⟩
  have hplaced := h.placed handle remaining
  obtain ⟨names, hnames, hpath⟩ := hplaced.spelled d hd
  obtain ⟨d', hd', hnode⟩ := b.registered names d.fdtNode hnames
  obtain ⟨names', hnames', hpath'⟩ := b.placed.spelled d' hd'
  rw [hnode] at hnames'
  have hsame : d.devicePath = d'.devicePath := by
    rw [hpath, hpath', hnames.names_unique hnames' b.sound]
  have hkept := h.kept handle remaining d' hd'
  rw [List.inj_on_of_nodup_map hplaced.paths hd hkept hsame]
  exact hd'

theorem proper_parts (hbelow : b.tree.Below device.fdtNode names d.fdtNode) :
    Separated.parts SLASH (relativePath names) = names := by
  refine Separated.parts_join SLASH names (fun name hname => ?_) (fun name hname => ?_)
  · obtain ⟨m, hm⟩ := hbelow.getName name hname
    exact b.proper.ne_nil m name hm
  · obtain ⟨m, hm⟩ := hbelow.getName name hname
    exact b.proper.slash m name hm

theorem looksUp_below (connectController : ConnectController) (asked : DtDeviceRecord)
    (path : AsciiStr) (connect : Bool)
    (hdevice : device ∈ b.registry.devices) (hd : d ∈ b.registry.devices)
    (hbelow : b.tree.Below device.fdtNode names d.fdtNode)
    (hstart : lookupStart b.root asked ((b.tree.getAlias path).getD path) =
      (device, relativePath names)) :
    b.LooksUp connectController asked path connect (.ok d.handle) := by
  have hshort (name : AsciiStr) (hname : name ∈ names) : ShortName name := by
    obtain ⟨m, hm⟩ := hbelow.getName name hname
    exact b.proper.short m name hm
  intro fuel hfuel
  obtain ⟨extra, rfl⟩ := Nat.exists_eq_add_of_le (Nat.le_of_succ_le hfuel)
  obtain ⟨σ, hfound⟩ := dtPathToHandle_found
    (if connect then some connectController else none) b.placed.paths d hd
    (b.devicePath_below hdevice hd hbelow)
  refine ⟨σ, ?_⟩
  rw [dtIoLookup, hstart]
  dsimp only
  rw [dtIoLookupPath_eq, b.proper_parts hbelow, append_names_short names _ hshort]
  exact Loop.run_mono _ 1 extra _ _ hfound

theorem root_below (hbelow : b.tree.Below b.tree.rootNode names d.fdtNode) :
    b.tree.Below b.root.fdtNode names d.fdtNode := b.root_node.symm ▸ hbelow

theorem lookupStart_absolute (asked : DtDeviceRecord) (names : List AsciiStr) :
    lookupStart b.root asked (absolutePath names) = (b.root, relativePath names) := by
  rw [absolutePath, lookupStart, if_pos rfl]

theorem lookupStart_relative (asked : DtDeviceRecord)
    (hbelow : b.tree.Below device.fdtNode names d.fdtNode) :
    lookupStart b.root asked (relativePath names) = (asked, relativePath names) := by
  cases names with
  | nil => rfl
  | cons name names =>
      obtain ⟨m, hm⟩ := hbelow.getName name List.mem_cons_self
      have hne := b.proper.ne_nil m name hm
      have hslash := b.proper.slash m name hm
      obtain ⟨c, cs, rfl⟩ := List.exists_cons_of_ne_nil hne
      have hc : c ≠ SLASH := fun heq => hslash (heq ▸ List.mem_cons_self)
      obtain ⟨rest, hrest⟩ : ∃ rest, relativePath ((c :: cs) :: names) = c :: rest := by
        cases names with
        | nil => exact ⟨cs, by rw [relativePath, Separated.join, List.intercalate_singleton]⟩
        | cons next names => exact ⟨_, Separated.join_cons_cons SLASH (c :: cs) next names⟩
      rw [hrest, lookupStart, if_neg hc]

theorem looksUp_absolute (connectController : ConnectController) (asked : DtDeviceRecord)
    (path : AsciiStr) (connect : Bool) (hd : d ∈ b.registry.devices)
    (hbelow : b.tree.Below b.tree.rootNode names d.fdtNode)
    (hresolved : (b.tree.getAlias path).getD path = absolutePath names) :
    b.LooksUp connectController asked path connect (.ok d.handle) := by
  refine b.looksUp_below connectController asked path connect b.root_mem hd (b.root_below hbelow) ?_
  rw [hresolved, b.lookupStart_absolute]

theorem getAlias_absolute (names : List AsciiStr) :
    b.tree.getAlias (absolutePath names) = none := by
  cases halias : b.tree.getAlias (absolutePath names) with
  | none => rfl
  | some value =>
      exact absurd List.mem_cons_self (b.proper.alias_slash (absolutePath names) value halias)

end RegisteredTree

theorem spells_parts (path : AsciiStr) : Spells (Separated.parts SLASH path) path :=
  Separated.join_parts SLASH path

/-- The device a lookup starts from, and how the rest of the path names nodes. -/
theorem pathNames_of_start (t : DtTree) (root asked : DtDeviceRecord) (path : AsciiStr)
    (hroot : root.fdtNode = t.rootNode) (n : Int)
    (hbelow : t.Below (lookupStart root asked path).1.fdtNode
      (Separated.parts SLASH (lookupStart root asked path).2) n) :
    t.PathNames asked.fdtNode path n := by
  cases path with
  | nil => exact .relative (spells_parts []) hbelow
  | cons c iter =>
      rw [lookupStart] at hbelow
      split at hbelow
      · next hslash =>
          rw [hslash]
          exact .absolute (spells_parts iter) (hroot ▸ hbelow)
      · exact .relative (spells_parts (c :: iter)) hbelow

theorem lookupStart_mem (t : RegisteredTree) (asked : DtDeviceRecord) (path : AsciiStr)
    (hasked : asked ∈ t.registry.devices) :
    (lookupStart t.root asked path).1 ∈ t.registry.devices := by
  cases path with
  | nil => exact hasked
  | cons c iter =>
      rw [lookupStart]
      split
      · exact t.root_mem
      · exact hasked

theorem lookupStart_suffix (root asked : DtDeviceRecord) (path : AsciiStr) :
    (lookupStart root asked path).2 <:+ path := by
  cases path with
  | nil => exact List.suffix_rfl
  | cons c iter =>
      rw [lookupStart]
      split
      · exact List.suffix_cons c iter
      · exact List.suffix_rfl

namespace RegisteredTree

variable (b : RegisteredTree) {device d : DtDeviceRecord} {names : List AsciiStr}

theorem looksUp_unnamed (connectController : ConnectController) (asked : DtDeviceRecord)
    (path : AsciiStr) (connect : Bool) (hkeeps : connect = true → b.Keeps connectController)
    (hasked : asked ∈ b.registry.devices) (hterminated : 0 ∉ path)
    (halias : b.tree.getAlias path = none)
    (hnone : ∀ n, ¬ b.tree.PathNames asked.fdtNode path n) :
    ∃ e, b.LooksUp connectController asked path connect (.error e) := by
  have hstart := lookupStart_mem b asked path hasked
  have hsuffix := lookupStart_suffix b.root asked path
  have hnames := pathNames_of_start b.tree b.root asked path b.root_node
  cases hlookup : lookupStart b.root asked path with
  | mk start iter =>
      rw [hlookup] at hstart hsuffix hnames
      dsimp only at hstart hsuffix hnames
      cases happend : dtIoLookupPath start.devicePath iter with
      | none =>
          refine ⟨.outOfResources, fun fuel _ => ⟨b.registry, ?_⟩⟩
          simp only [dtIoLookup, halias, Option.getD_none, hlookup, happend]
      | some whole =>
          have hwhole := append_names_some _ _ _ (dtIoLookupPath_eq _ _ ▸ happend)
          have hmissing : ∀ d ∈ b.registry.devices, d.devicePath ≠ whole := by
            intro d hd hpath
            refine hnone d.fdtNode (hnames d.fdtNode ?_)
            refine b.below_of_devicePath hstart hd (fun name hname hzero => ?_)
              (hpath.trans hwhole)
            exact hterminated
              (hsuffix.subset (Separated.mem_of_mem_parts SLASH iter name hname 0 hzero))
          obtain ⟨e, σ, hmiss⟩ := dtPathToHandle_missing
            (if connect then some connectController else none) b.placed.paths hmissing (by
              intro c hc handle remaining d
              cases connect with
              | false => exact nomatch hc
              | true => exact Option.some.inj hc ▸ (hkeeps rfl).same handle remaining d)
          refine ⟨e, fun fuel hfuel => ⟨σ, ?_⟩⟩
          obtain ⟨extra, rfl⟩ := Nat.exists_eq_add_of_le hfuel
          simp only [dtIoLookup, halias, Option.getD_none, hlookup, happend]
          exact Loop.run_mono _ 2 extra _ _ hmiss

end RegisteredTree

section Phandle

theorem toAscii_ofAscii (s : AsciiStr) : toAscii (ofAscii s) = s := by
  have hchar (c : U8) : BitVec.ofNat 8 (Char.ofNat c.toNat).toNat = c := by
    have hvalid : (Char.ofNat c.toNat).toNat = c.toNat := by
      rw [Char.ofNat, dif_pos (.inl (by omega))]
      rfl
    rw [hvalid, BitVec.ofNat_toNat, BitVec.setWidth_eq]
  rw [toAscii, ofAscii, String.toList_ofList, List.map_map]
  exact (List.map_congr_left fun c _ => hchar c).trans (List.map_id s)

theorem nodePathBody_run (getPath : Nat → Except Int AsciiStr) (path : AsciiStr)
    (hget : ∀ size, getPath size =
      if path.length < size then .ok path else .error (-FDT_ERR_NOSPACE))
    (pages size : Nat) (hfits : path.length < size + pages * 4096) (hpages : 0 < pages) :
    Loop.run (nodePathBody getPath) pages size = some (.ok path) := by
  induction pages generalizing size with
  | zero => exact absurd hpages (Nat.lt_irrefl 0)
  | succ pages ih =>
      have hpage : EFI_PAGE_SIZE.toNat = 4096 := rfl
      by_cases hlast : path.length < size + 4096
      · refine Loop.run_exit _ pages size _ ?_
        rw [nodePathBody, hpage, hget, if_pos hlast]
      · rw [Loop.run_next _ pages size (size + 4096)]
        · exact ih (size + 4096) (by omega) (by omega)
        · rw [nodePathBody, hpage, hget, if_neg hlast]
          rfl

end Phandle

/-- A property with the phandle of a device leads to it by the path of its node. -/
theorem RegisteredTree.parsePropDevice (b : RegisteredTree)
    (connectController : ConnectController) {device d : DtDeviceRecord}
    {names : List AsciiStr} (hdevice : device ∈ b.registry.devices)
    (hd : d ∈ b.registry.devices) (hnames : b.tree.Below b.tree.rootNode names d.fdtNode)
    (p q : DtProperty) (index : Nat) (phandle : U32)
    (hparse : dtIoParsePropU32 b.tree.mem p index = (.ok phandle, q))
    (hphandle : b.nodeOffsetByPhandle phandle = d.fdtNode) (fuel : Nat)
    (hfuel : (absolutePath names).length + 2 ≤ fuel) :
    dtIoParsePropDevice (b.dtBus connectController fuel) device.device p index =
      (.ok d.handle, q) := by
  have hparse' : dtIoParsePropU32 (b.dtBus connectController fuel).fdt.mem p index =
      (.ok phandle, q) := hparse
  have hoffset : ¬ (b.dtBus connectController fuel).nodeOffsetByPhandle phandle < 0 := by
    have hnonneg := b.offset_nonneg names d.fdtNode hnames
    have hnode : (b.dtBus connectController fuel).nodeOffsetByPhandle phandle = d.fdtNode :=
      hphandle
    omega
  have hpath : (b.dtBus connectController fuel).nodePath
      ((b.dtBus connectController fuel).nodeOffsetByPhandle phandle) =
        .ok (ofAscii (absolutePath names)) := by
    have hgrown := nodePathBody_run (b.getPath d.fdtNode) (absolutePath names)
      (fun size => b.getPath_eq names d.fdtNode size hnames) fuel 0 (by omega) (by omega)
    have hnode : (b.dtBus connectController fuel).nodeOffsetByPhandle phandle = d.fdtNode :=
      hphandle
    rw [hnode]
    simp only [dtBus, hgrown]
    rfl
  have hlookup : (b.dtBus connectController fuel).lookup device.device
      (ofAscii (absolutePath names)) true =
        .ok d.handle := by
    have hsome : (b.registry.devices.find? fun e => e.device = device.device).isSome :=
      List.find?_isSome.mpr ⟨device, hdevice, decide_eq_true rfl⟩
    obtain ⟨asked, hasked⟩ := Option.isSome_iff_exists.mp hsome
    obtain ⟨σ, hfound⟩ := b.looksUp_absolute connectController asked (absolutePath names) true hd
      hnames (by rw [b.getAlias_absolute, Option.getD_none]) fuel (by omega)
    simp only [dtBus, hasked, toAscii_ofAscii, hfound]
  rw [dtIoParsePropDevice, hparse']
  dsimp only
  rw [if_neg hoffset, hpath]
  dsimp only
  rw [hlookup]

theorem namingAgrees (b : RegisteredTree) : NamingAgrees b where
  byPath device d _ hd names hnames connectController connect := by
    refine b.looksUp_absolute connectController device _ connect hd hnames ?_
    rw [b.getAlias_absolute, Option.getD_none]
  byRelativePath device d hdevice hd names hnames halias connectController connect := by
    refine b.looksUp_below connectController device _ connect hdevice hd hnames ?_
    rw [halias, Option.getD_none, b.lookupStart_relative device hnames]
  byAlias device d _ hd name names hnames halias connectController connect := by
    refine b.looksUp_absolute connectController device name connect hd hnames ?_
    rw [halias, Option.getD_some]
  byPhandle device d hdevice hd p q index phandle hparse hphandle connectController := by
    obtain ⟨names, hnames, -⟩ := b.placed.spelled d hd
    exact ⟨(absolutePath names).length + 2, fun fuel hfuel => b.parsePropDevice connectController
      hdevice hd hnames p q index phandle hparse hphandle fuel hfuel⟩
  unnamed device hdevice path hterminated halias hnone connectController connect hkeeps :=
    b.looksUp_unnamed connectController device path connect hkeeps hdevice hterminated halias
      hnone

/-- The full start of the bus `a` below the root. -/
def busStart : BusStart :=
  ⟨afterRootStart.devices.getD 1 criticalBusRoot.root, none, nextServices⟩

/-- The root, `a` and `a/b`, all of them registered. -/
def afterBusStart : Registry :=
  (driverStart criticalBusDriver afterRootStart 7 nextServices busStart.device none).2

theorem afterBusStart_inv : BoundInv criticalBusDriver criticalBusRoot.root afterBusStart :=
  (StartRun.start (P := fun _ => True) busStart
    (.start rootStart .initial criticalBusRoot.inv.root_mem rfl trivial)
    (List.mem_of_getElem? (i := 1) rfl) rfl trivial).inv.inv

def criticalBusNames (n : Int) : List AsciiStr :=
  if n = 0 then [] else if n = 1 then [[0x61]] else [[0x61], [0x62]]

theorem criticalBusTree_below (names : List AsciiStr) (n : Int)
    (h : criticalBusTree.Below 0 names n) :
    (n = 0 ∨ n = 1 ∨ n = 2) ∧ names = criticalBusNames n := by
  have hnames : ∀ m, (m = 0 ∨ m = 1 ∨ m = 2) → criticalBusTree.Below 0 (criticalBusNames m) m := by
    intro m hm
    obtain rfl | rfl | rfl := hm
    · exact rfl
    · exact ⟨1, by decide, rfl, rfl⟩
    · exact ⟨1, by decide, rfl, 2, by decide, rfl, rfl⟩
  have hnode : n = 0 ∨ n = 1 ∨ n = 2 := by
    cases names using List.reverseRecOn with
    | nil => exact .inl h
    | append_singleton names name =>
        obtain ⟨m, -, hm, -⟩ := (DtTree.below_concat _ _ _ _).mp h
        have hm := criticalBusTree_subnodes m n hm
        omega
  exact ⟨hnode, h.names_unique (hnames n hnode) criticalBusTree_sound⟩

def registeredBus : RegisteredTree where
  tree := criticalBusTree
  sound := criticalBusTree_sound
  proper :=
    { short := fun m name h => by obtain rfl | rfl := criticalBusTree_name m name h <;> decide
      ne_nil := fun m name h => by obtain rfl | rfl := criticalBusTree_name m name h <;> decide
      slash := fun m name h => by obtain rfl | rfl := criticalBusTree_name m name h <;> decide
      alias_slash := fun _ _ h => nomatch h }
  rootName := criticalBusRoot.root.name
  root := criticalBusRoot.root
  registry := afterBusStart
  placed := afterBusStart_inv.placed criticalBusTree_sound
  root_mem := afterBusStart_inv.root_mem
  root_node := rfl
  registered names n h := by
    obtain ⟨rfl | rfl | rfl, -⟩ := criticalBusTree_below names n h
    · exact ⟨_, List.mem_of_getElem? (i := 0) rfl, rfl⟩
    · exact ⟨_, List.mem_of_getElem? (i := 1) rfl, rfl⟩
    · exact ⟨_, List.mem_of_getElem? (i := 2) rfl, rfl⟩
  nodeOffsetByPhandle phandle := if phandle = 5 then 2 else -FDT_ERR_NOTFOUND
  offset_nonneg names n h := by
    obtain ⟨rfl | rfl | rfl, -⟩ := criticalBusTree_below names n h <;> decide
  getPath n size :=
    if (absolutePath (criticalBusNames n)).length < size then
      .ok (absolutePath (criticalBusNames n))
    else
      .error (-FDT_ERR_NOSPACE)
  getPath_eq names n size h := by rw [(criticalBusTree_below names n h).2]

/-- Connecting the bus driver again changes nothing for the registered tree. -/
theorem registeredBus_keeps :
    registeredBus.Keeps (startController criticalBusDriver nextServices 7) where
  placed handle remaining :=
    (startController_inv afterBusStart_inv criticalBusTree_sound nextServices 7 handle
      remaining).1.placed criticalBusTree_sound
  kept handle remaining :=
    (startController_inv afterBusStart_inv criticalBusTree_sound nextServices 7 handle
      remaining).2

theorem criticalBusTree_unnamed (n : Int) :
    ¬ criticalBusTree.PathNames 1 (absolutePath [[0x63]]) n := by
  intro hnamed
  generalize hpath : absolutePath [[0x63]] = path at hnamed
  cases hnamed with
  | absolute hspells hbelow =>
      obtain ⟨hn, rfl⟩ := criticalBusTree_below _ _ hbelow
      rw [← (List.cons.inj hpath).2] at hspells
      obtain rfl | rfl | rfl := hn <;> exact absurd hspells (by decide)
  | @relative names _ _ hspells hbelow =>
      have hwhole : criticalBusTree.Below 0 ([0x61] :: names) n := ⟨1, by decide, rfl, hbelow⟩
      obtain ⟨hn, hnames⟩ := criticalBusTree_below _ _ hwhole
      have htail : names = (criticalBusNames n).tail := congrArg List.tail hnames
      rw [← hpath, htail] at hspells
      obtain rfl | rfl | rfl := hn <;> exact absurd hspells (by decide)

/-- `/a/b`, asked for from `a`, is the handle that was installed third, and `/c` is none. -/
theorem namingAgrees_registeredBus :
    registeredBus.LooksUp (startController criticalBusDriver nextServices 7) busStart.device
        (absolutePath [[0x61], [0x62]]) true (.ok 3) ∧
      ∃ e, registeredBus.LooksUp (startController criticalBusDriver nextServices 7)
        busStart.device (absolutePath [[0x63]]) true (.error e) := by
  have hdevice : busStart.device ∈ afterBusStart.devices := List.mem_of_getElem? (i := 1) rfl
  have hd : afterBusStart.devices.getD 2 busStart.device ∈ afterBusStart.devices :=
    List.mem_of_getElem? (i := 2) rfl
  have hagrees := namingAgrees registeredBus
  constructor
  · exact hagrees.byPath _ _ hdevice hd [[0x61], [0x62]]
      ⟨1, by decide, rfl, 2, by decide, rfl, rfl⟩ _ true
  · exact hagrees.unnamed _ hdevice _ (by decide) rfl criticalBusTree_unnamed _ true
      (fun _ => registeredBus_keeps)

end FdtBusPkg
