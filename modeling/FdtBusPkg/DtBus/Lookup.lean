import Mathlib.Data.List.TakeWhile
import FdtBusPkg.Library.Separated
import FdtBusPkg.DtBus.OneDevice

/-!
Lookups by path. A path is cut at its slashes and every name becomes a node of a
device path, below the root for an absolute path and below the device otherwise. A
device whose own path spells out the names that lead to its node is the one found.
-/
namespace FdtBusPkg

def SLASH : U8 := 0x2f

/-- The loop of `DtIoLookup` over the names from `Iter` on. -/
def dtIoLookupPath (currentDp : DevicePath) : AsciiStr → Option DevicePath
  | [] => some currentDp
  | c :: cs => do
    let startOfName := (c :: cs).takeWhile (· ≠ SLASH)
    let newDp ← appendDevicePathNode currentDp (fbpPathNodeCreate startOfName)
    dtIoLookupPath newDp ((c :: cs).dropWhile (· ≠ SLASH)).tail
termination_by iter => iter.length
decreasing_by
  have hdrop := (List.dropWhile_suffix (l := c :: cs) (· ≠ SLASH)).length_le
  simp only [List.length_tail, List.length_cons] at hdrop ⊢
  omega

/-- Where the device path of a resolved path starts, and the names below. -/
def lookupStart (root device : DtDeviceRecord) : AsciiStr → DtDeviceRecord × AsciiStr
  | [] => (device, [])
  | c :: iter => if c = SLASH then (root, iter) else (device, c :: iter)

def dtIoLookup (tree : DtTree) (root : DtDeviceRecord) (connectController : ConnectController)
    (σ : Registry) (device : DtDeviceRecord) (pathOrAlias : AsciiStr) (connect : Bool)
    (fuel : Nat) : Option (EfiResult EfiHandle × Registry) :=
  let resolved := (tree.getAlias pathOrAlias).getD pathOrAlias
  let (start, iter) := lookupStart root device resolved
  match dtIoLookupPath start.devicePath iter with
  | none => some (.error .outOfResources, σ)
  | some path =>
    dtPathToHandle (if connect then some connectController else none) path fuel σ

/-- The names lead from one node down to another. -/
def DtTree.Below (t : DtTree) : Int → List AsciiStr → Int → Prop
  | a, [], n => n = a
  | a, name :: names, n => ∃ m ∈ t.subnodes a, t.getName m = some name ∧ t.Below m names n

section Below

variable {t : DtTree}

theorem DtTree.below_append (a : Int) (names more : List AsciiStr) (n : Int) :
    t.Below a (names ++ more) n ↔ ∃ m, t.Below a names m ∧ t.Below m more n := by
  induction names generalizing a with
  | nil => simp [DtTree.Below]
  | cons name names ih =>
      simp only [List.cons_append, DtTree.Below, ih]
      constructor
      · intro h
        obtain ⟨b, hb, hname, m, hm, hn⟩ := h
        exact ⟨m, ⟨b, hb, hname, hm⟩, hn⟩
      · intro h
        obtain ⟨m, ⟨b, hb, hname, hm⟩, hn⟩ := h
        exact ⟨b, hb, hname, m, hm, hn⟩

theorem DtTree.below_concat (a : Int) (names : List AsciiStr) (name : AsciiStr) (n : Int) :
    t.Below a (names ++ [name]) n ↔
      ∃ m, t.Below a names m ∧ n ∈ t.subnodes m ∧ t.getName n = some name := by
  rw [DtTree.below_append]
  constructor
  · intro h
    obtain ⟨m, hm, k, hk, hname, heq⟩ := h
    exact ⟨m, hm, heq ▸ hk, heq ▸ hname⟩
  · intro h
    obtain ⟨m, hm, hn, hname⟩ := h
    exact ⟨m, hm, n, hn, hname, rfl⟩

namespace DtTree.Below

variable {a n n' : Int} {names names' : List AsciiStr}

theorem depth (h : t.Below a names n) (sound : t.Sound) :
    sound.depth n = sound.depth a + names.length := by
  induction names generalizing a with
  | nil => rw [h, List.length_nil, Nat.add_zero]
  | cons name names ih =>
      obtain ⟨m, hm, -, hbelow⟩ := h
      rw [ih hbelow, sound.depth_subnode a m hm, List.length_cons]
      omega

theorem node_unique (h : t.Below a names n) (h' : t.Below a names n') (sound : t.Sound) :
    n = n' := by
  induction names generalizing a with
  | nil => exact Eq.trans h (Eq.symm h')
  | cons name names ih =>
      obtain ⟨m, hm, hname, hbelow⟩ := h
      obtain ⟨m', hm', hname', hbelow'⟩ := h'
      have hsame := sound.distinct a m m' hm hm' (hname.trans hname'.symm)
      exact ih hbelow (hsame ▸ hbelow')

theorem names_unique (h : t.Below a names n) (h' : t.Below a names' n) (sound : t.Sound) :
    names = names' := by
  have hlength : names.length = names'.length := by
    have hdepth := h.depth sound
    have hdepth' := h'.depth sound
    omega
  induction names using List.reverseRecOn generalizing n names' with
  | nil => exact (List.length_eq_zero_iff.mp hlength.symm).symm
  | append_singleton names name ih =>
      obtain hnil | ⟨names'', name', hconcat⟩ := List.eq_nil_or_concat names'
      · rw [hnil] at hlength
        simp at hlength
      · rw [List.concat_eq_append] at hconcat
        subst hconcat
        obtain ⟨m, hm, hn, hname⟩ := (below_concat a names name n).mp h
        obtain ⟨m', hm', hn', hname'⟩ := (below_concat a names'' name' n).mp h'
        have hparent := sound.parent_unique m m' n hn hn'
        have hrest := ih hm (hparent ▸ hm') (by simpa using hlength)
        rw [hrest, Option.some.inj (hname.symm.trans hname')]

theorem getName (h : t.Below a names n) (name : AsciiStr) (hname : name ∈ names) :
    ∃ m, t.getName m = some name := by
  induction names generalizing a with
  | nil => exact nomatch hname
  | cons first names ih =>
      obtain ⟨m, -, hfirst, hbelow⟩ := h
      cases List.mem_cons.mp hname with
      | inl heq => exact ⟨m, heq ▸ hfirst⟩
      | inr hrest => exact ih hbelow hrest

end DtTree.Below

end Below

/-- The names of a devicetree: short, not empty, and without a slash, as those of the
properties of `/aliases` are. -/
structure DtTree.ProperNames (t : DtTree) : Prop where
  short (m : Int) (name : AsciiStr) (h : t.getName m = some name) : ShortName name
  ne_nil (m : Int) (name : AsciiStr) (h : t.getName m = some name) : name ≠ []
  slash (m : Int) (name : AsciiStr) (h : t.getName m = some name) : SLASH ∉ name
  alias_slash (name value : AsciiStr) (h : t.getAlias name = some value) : SLASH ∉ name

def relativePath (names : List AsciiStr) : AsciiStr := Separated.join SLASH names

def absolutePath (names : List AsciiStr) : AsciiStr := SLASH :: relativePath names

/-- The device path that spells out the names below the root. -/
def devicePathOf (rootName : AsciiStr) (names : List AsciiStr) : DevicePath :=
  dtPathNode rootName :: names.map dtPathNode

/-- Registered devices are where the names that lead to their nodes put them. -/
structure DevicesPlaced (t : DtTree) (rootName : AsciiStr) (σ : Registry) : Prop where
  spelled (d : DtDeviceRecord) (hd : d ∈ σ.devices) : ∃ names,
    t.Below t.rootNode names d.fdtNode ∧ d.devicePath = devicePathOf rootName names
  paths : (σ.devices.map (·.devicePath)).Nodup

theorem RegistryInv.placed {bus : DtBusDriver} {root : DtDeviceRecord} {σ : Registry}
    (h : RegistryInv bus root σ) (sound : bus.tree.Sound) : DevicesPlaced bus.tree root.name σ where
  spelled d hd := by
    induction hdepth : sound.depth d.fdtNode using Nat.strongRecOn generalizing d with
    | ind k ih =>
        subst hdepth
        by_cases hroot : d = root
        · exact ⟨[], by rw [hroot]; exact h.isRoot.node, by rw [hroot]; exact h.isRoot.path⟩
        · obtain ⟨p, hp, hchild⟩ := h.below d hd hroot
          have hless : sound.depth p.fdtNode < sound.depth d.fdtNode := by
            rw [hchild.depth sound]
            omega
          obtain ⟨names, hbelow, hpath⟩ := ih _ hless p hp rfl
          refine ⟨names ++ [d.name], ?_, ?_⟩
          · exact (DtTree.below_concat _ _ _ _).mpr ⟨p.fdtNode, hbelow, hchild.node, hchild.name⟩
          · rw [hchild.path, hpath, devicePathOf, devicePathOf, List.map_append, List.map_singleton,
              List.cons_append]
  paths := h.paths

section Paths

theorem dtIoLookupPath_nil (currentDp : DevicePath) :
    dtIoLookupPath currentDp [] = some currentDp := by
  rw [dtIoLookupPath]

theorem dtIoLookupPath_of_ne_nil (currentDp : DevicePath) (iter : AsciiStr) (h : iter ≠ []) :
    dtIoLookupPath currentDp iter =
      (appendDevicePathNode currentDp (fbpPathNodeCreate (iter.takeWhile (· ≠ SLASH)))).bind
        fun newDp => dtIoLookupPath newDp (iter.dropWhile (· ≠ SLASH)).tail := by
  cases iter with
  | nil => exact absurd rfl h
  | cons c cs =>
      rw [dtIoLookupPath]
      rfl

theorem dtIoLookupPath_eq (currentDp : DevicePath) (iter : AsciiStr) :
    dtIoLookupPath currentDp iter = (Separated.parts SLASH iter).foldlM
      (fun dp name => appendDevicePathNode dp (fbpPathNodeCreate name)) currentDp := by
  have hkeep (name : AsciiStr) (hname : SLASH ∉ name) (c : U8) (hc : c ∈ name) :
      decide (c ≠ SLASH) = true := decide_eq_true fun heq => hname (heq ▸ hc)
  induction iter using Separated.induction SLASH generalizing currentDp with
  | nil => exact dtIoLookupPath_nil currentDp
  | last name hne hname =>
      rw [dtIoLookupPath_of_ne_nil currentDp name hne, Separated.parts_last SLASH name hne hname,
        List.takeWhile_eq_self_iff.mpr (hkeep name hname),
        List.dropWhile_eq_nil_iff.mpr (hkeep name hname), List.foldlM_cons]
      exact congrArg _ (funext fun newDp => dtIoLookupPath_nil newDp)
  | cons name rest hname ih =>
      have htake : (name ++ SLASH :: rest).takeWhile (· ≠ SLASH) = name := by
        rw [List.takeWhile_append_of_pos (hkeep name hname), List.takeWhile_cons_of_neg (by simp),
          List.append_nil]
      have hdrop : (name ++ SLASH :: rest).dropWhile (· ≠ SLASH) = SLASH :: rest := by
        rw [List.dropWhile_append_of_pos (hkeep name hname),
          List.dropWhile_cons_of_neg (by simp)]
      rw [dtIoLookupPath_of_ne_nil currentDp _ (by simp), htake, hdrop,
        Separated.parts_append SLASH name rest hname, List.foldlM_cons]
      exact congrArg _ (funext fun newDp => ih newDp)

theorem append_names_some (names : List AsciiStr) (currentDp path : DevicePath)
    (h : names.foldlM (fun dp name => appendDevicePathNode dp (fbpPathNodeCreate name))
      currentDp = some path) : path = currentDp ++ names.map dtPathNode := by
  induction names generalizing currentDp with
  | nil => rw [← Option.some.inj h, List.map_nil, List.append_nil]
  | cons name names ih =>
      rw [List.foldlM_cons, appendDevicePathNode_create] at h
      split at h
      · exact nomatch h
      · rw [ih _ h, List.append_assoc, List.map_cons, List.singleton_append]

theorem append_names_short (names : List AsciiStr) (currentDp : DevicePath)
    (hshort : ∀ name ∈ names, ShortName name) :
    names.foldlM (fun dp name => appendDevicePathNode dp (fbpPathNodeCreate name)) currentDp =
      some (currentDp ++ names.map dtPathNode) := by
  induction names generalizing currentDp with
  | nil => rw [List.map_nil, List.append_nil]; rfl
  | cons name names ih =>
      rw [List.foldlM_cons, appendDevicePathNode_short name _ (hshort name List.mem_cons_self)]
      exact (ih _ fun n hn => hshort n (List.mem_cons_of_mem name hn)).trans (by simp)

/-- Short names and other strings without terminators that have the same nodes. -/
theorem names_of_nodes (names others : List AsciiStr) (hshort : ∀ name ∈ names, ShortName name)
    (hothers : ∀ other ∈ others, 0 ∉ other)
    (h : names.map dtPathNode = others.map dtPathNode) : others = names := by
  induction names generalizing others with
  | nil => exact List.map_eq_nil_iff.mp h.symm
  | cons name names ih =>
      cases others with
      | nil => exact nomatch h
      | cons other others =>
          rw [List.map_cons, List.map_cons] at h
          obtain ⟨hhead, htail⟩ := List.cons.inj h
          rw [eq_of_dtPathNode_eq name other (hshort name List.mem_cons_self)
              (hothers other List.mem_cons_self) hhead,
            ih others (fun n hn => hshort n (List.mem_cons_of_mem name hn))
              (fun n hn => hothers n (List.mem_cons_of_mem other hn)) htail]

end Paths

end FdtBusPkg
