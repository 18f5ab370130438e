import FdtBusPkg.Pci.ResourceSearch

/-!
The allocation phase as a sequence of attempts. The nodes it selects and their
order depend on statuses and alignments only, which no attempt changes, so the
loop with its `handled` flags is a fold over a list known beforehand, and no
node is attempted twice.
-/
namespace FdtBusPkg

/-! Selection. -/

theorem selectStep_some (nodes : PciResourceType → PciResNode)
    (handled : PciResourceType → Bool) (best : U64 × Option PciResourceType)
    (t u : PciResourceType) (h : (selectStep nodes handled best t).2 = some u) :
    best.2 = some u ∨ (handled t = false ∧ u = t) := by
  rw [selectStep] at h
  cases hhandled : handled t with
  | true =>
      rw [if_pos hhandled] at h
      exact Or.inl h
  | false =>
      rw [hhandled, if_neg Bool.false_ne_true] at h
      split at h
      · exact Or.inr ⟨rfl, (Option.some.inj h).symm⟩
      · exact Or.inl h

theorem foldl_selectStep_some (nodes : PciResourceType → PciResNode)
    (handled : PciResourceType → Bool) (l : List PciResourceType)
    (best : U64 × Option PciResourceType) (t : PciResourceType)
    (h : (l.foldl (selectStep nodes handled) best).2 = some t) :
    best.2 = some t ∨ (handled t = false ∧ t ∈ l) := by
  induction l generalizing best with
  | nil => exact Or.inl h
  | cons u rest ih =>
      rcases ih _ h with hbest | ⟨hhandled, hrest⟩
      · rcases selectStep_some nodes handled best u t hbest with hbest | ⟨hhandled, rfl⟩
        · exact Or.inl hbest
        · exact Or.inr ⟨hhandled, List.mem_cons_self⟩
      · exact Or.inr ⟨hhandled, List.mem_cons_of_mem u hrest⟩

theorem selectNode_unhandled (nodes : PciResourceType → PciResNode)
    (handled : PciResourceType → Bool) (t : PciResourceType)
    (h : selectNode nodes handled = some t) : handled t = false ∧ t ∈ resourceTypes := by
  rcases foldl_selectStep_some nodes handled resourceTypes (0, none) t h with hstart | hfound
  · contradiction
  · exact hfound

/-- The values of `Index1` and `Index` with which the loop comes to an attempt. -/
def selections (nodes : PciResourceType → PciResNode) :
    List PciResourceType → (PciResourceType → Bool) → List (PciResourceType × PciResourceType)
  | [], _ => []
  | index1 :: rest, handled =>
    if (nodes index1).status = .none then
      selections nodes rest (Function.update handled index1 true)
    else
      match selectNode nodes handled with
      | none => selections nodes rest handled
      | some index => (index1, index) :: selections nodes rest (Function.update handled index true)

theorem update_handled_of_ne (handled : PciResourceType → Bool) (t u : PciResourceType)
    (h : Function.update handled t true u = false) : u ≠ t ∧ handled u = false := by
  by_cases hu : u = t
  · rw [hu, Function.update_self] at h
    contradiction
  · rw [Function.update_of_ne hu] at h
    exact ⟨hu, h⟩

/-- What is selected was not handled before, and is no longer unhandled after. -/
theorem selections_unhandled (nodes : PciResourceType → PciResNode) (l : List PciResourceType)
    (handled : PciResourceType → Bool) :
    (∀ p ∈ selections nodes l handled, handled p.2 = false ∧ p.1 ∈ l ∧ p.2 ∈ resourceTypes) ∧
      ((selections nodes l handled).map Prod.snd).Nodup := by
  induction l generalizing handled with
  | nil => exact ⟨List.forall_mem_nil _, List.nodup_nil⟩
  | cons index1 rest ih =>
      rw [selections]
      by_cases hnone : (nodes index1).status = .none
      · rw [if_pos hnone]
        obtain ⟨hmem, hnodup⟩ := ih (Function.update handled index1 true)
        refine ⟨fun p hp => ?_, hnodup⟩
        obtain ⟨hp, hrest, htypes⟩ := hmem p hp
        exact ⟨(update_handled_of_ne handled index1 p.2 hp).2, List.mem_cons_of_mem _ hrest,
          htypes⟩
      · rw [if_neg hnone]
        cases hselect : selectNode nodes handled with
        | none =>
            obtain ⟨hmem, hnodup⟩ := ih handled
            refine ⟨fun p hp => ?_, hnodup⟩
            obtain ⟨hp, hrest, htypes⟩ := hmem p hp
            exact ⟨hp, List.mem_cons_of_mem _ hrest, htypes⟩
        | some index =>
            obtain ⟨hindex, htype⟩ := selectNode_unhandled nodes handled index hselect
            obtain ⟨hmem, hnodup⟩ := ih (Function.update handled index true)
            constructor
            · intro p hp
              rcases List.mem_cons.mp hp with rfl | hp
              · exact ⟨hindex, List.mem_cons_self, htype⟩
              · obtain ⟨hp, hrest, htypes⟩ := hmem p hp
                exact ⟨(update_handled_of_ne handled index p.2 hp).2,
                  List.mem_cons_of_mem _ hrest, htypes⟩
            · rw [List.map_cons, List.nodup_cons]
              refine ⟨fun hin => ?_, hnodup⟩
              obtain ⟨p, hp, hpindex⟩ := List.mem_map.mp hin
              exact (update_handled_of_ne handled index p.2 (hmem p hp).1).1 hpindex

theorem selections_sublist (nodes : PciResourceType → PciResNode) (l : List PciResourceType)
    (handled : PciResourceType → Bool) :
    List.Sublist ((selections nodes l handled).map Prod.fst) l := by
  induction l generalizing handled with
  | nil => exact List.Sublist.refl _
  | cons index1 rest ih =>
      rw [selections]
      split
      · exact (ih _).cons index1
      · split
        · exact (ih _).cons index1
        · rw [List.map_cons]
          exact (ih _).cons_cons index1

/-- Two tables of nodes that the selection cannot tell apart. -/
def SameKeys (nodes nodes' : PciResourceType → PciResNode) : Prop :=
  ∀ t, (nodes t).alignment = (nodes' t).alignment ∧
    ((nodes t).status = .none ↔ (nodes' t).status = .none)

theorem selections_congr (nodes nodes' : PciResourceType → PciResNode)
    (h : SameKeys nodes nodes') (l : List PciResourceType) (handled : PciResourceType → Bool) :
    selections nodes l handled = selections nodes' l handled := by
  have hselect (handled : PciResourceType → Bool) :
      selectNode nodes handled = selectNode nodes' handled := by
    have hstep : selectStep nodes handled = selectStep nodes' handled := by
      funext best index2
      rw [selectStep, selectStep, (h index2).1]
    rw [selectNode, selectNode, hstep]
  induction l generalizing handled with
  | nil => rfl
  | cons index1 rest ih =>
      simp only [selections, (h index1).2, hselect, ih]

/-! One attempt. -/

/-- A node with nothing submitted has no length. -/
def BlankNodes (nodes : PciResourceType → PciResNode) : Prop :=
  ∀ t, (nodes t).status = .none → (nodes t).length = 0

/-- The region a node keeps in the GCD, in the addresses of its space. -/
def nodeRegion (bridge : PciHostBridge) (t : PciResourceType) (node : PciResNode) : Span :=
  gcdRegion (gcdBase bridge t node.base) node.length

def HostBridgeState.Allocated (s : HostBridgeState) (t : PciResourceType) : Prop :=
  (s.nodes t).status = .allocated

instance (s : HostBridgeState) (t : PciResourceType) : Decidable (s.Allocated t) :=
  inferInstanceAs (Decidable (_ = _))

/-- The state with node `t` given the region at `x`. -/
def HostBridgeState.grant (bridge : PciHostBridge) (s : HostBridgeState) (t : PciResourceType)
    (x : U64) (gcd : Gcd) : HostBridgeState :=
  { s with gcd := gcd }.setNode t
    { s.nodes t with base := hostBase bridge t x, status := .allocated }

/-- The translation of the type of the node is a multiple of its alignment. -/
def TranslationAligned (bridge : PciHostBridge) (t : PciResourceType) (node : PciResNode) : Prop :=
  getTranslationByResourceType bridge.toPciRootBridge t &&& node.alignment = 0

/-- Some search for the node asks for `x`. -/
def AsksFor (bridge : PciHostBridge) (t : PciResourceType) (node : PciResNode) (x : U64) : Prop :=
  TranslationAligned bridge t node ∧ ∃ q ∈ searches bridge node t, q.Asks node.length x

theorem gcdBase_hostBase (bridge : PciHostBridge) (t : PciResourceType) (x : U64) :
    gcdBase bridge t (hostBase bridge t x) = x := by
  rw [gcdBase, hostBase]
  by_cases ht : t = .io
  · rw [if_pos ht, if_pos ht, toDeviceAddress, toHostAddress, BitVec.sub_add_cancel]
  · rw [if_neg ht, if_neg ht]

section Attempt

variable (bridge : PciHostBridge) (free : GcdSpace → Span → Bool) (t : PciResourceType)

/-- `AllocateResource`s of an attempt. -/
def attemptSearches (s : HostBridgeState) : Option (U64 × Gcd) :=
  runSearches free t.space (s.nodes t).length (searches bridge (s.nodes t) t) s.gcd

theorem attemptNode_eq (status : EfiStatus) (s : HostBridgeState)
    (haligned : TranslationAligned bridge t (s.nodes t)) :
    attemptNode bridge free t (status, s) =
      (attemptSearches bridge free t s).map fun (x, gcd) =>
        if x ≠ MAX_UINT64 ∧ hostBase bridge t x ≠ MAX_UINT64 then (status, s.grant bridge t x gcd)
        else (.error .outOfResources, { s with gcd := gcd }) := by
  rw [TranslationAligned] at haligned
  simp only [attemptNode, haligned, ne_eq, not_true_eq_false, if_false, allocateNode_eq]
  rw [← attemptSearches]
  cases attemptSearches bridge free t s with
  | none => rfl
  | some found =>
      by_cases hx : found.1 = MAX_UINT64
      · simp only [Option.map_some, hx, not_true_eq_false, if_false, false_and]
      · by_cases hhost : hostBase bridge t found.1 = MAX_UINT64
        · simp only [Option.map_some, hx, hhost, not_true_eq_false, not_false_eq_true,
            if_true, if_false, and_false]
        · simp only [Option.map_some, hx, hhost, not_false_eq_true, if_true, and_self,
            HostBridgeState.grant]

theorem attemptNode_of_not_aligned (r : EfiStatus × HostBridgeState)
    (haligned : ¬ TranslationAligned bridge t (r.2.nodes t)) :
    attemptNode bridge free t r = some (.error .outOfResources, r.2) :=
  if_pos haligned

/-- An attempt changes the GCD only, or gives the node a region it has asked for. -/
theorem attemptNode_cases (r r' : EfiStatus × HostBridgeState)
    (h : attemptNode bridge free t r = some r') :
    (∃ g, HeldIn r.2.gcd g ∧ r'.2 = { r.2 with gcd := g }) ∨
    (∃ x g g', AsksFor bridge t (r.2.nodes t) x ∧ x ≠ MAX_UINT64 ∧
      hostBase bridge t x ≠ MAX_UINT64 ∧ HeldIn r.2.gcd g ∧
      gcdAllocate free t.space (r.2.nodes t).length x g = some g' ∧
      r'.2 = r.2.grant bridge t x g') := by
  by_cases haligned : TranslationAligned bridge t (r.2.nodes t)
  · obtain ⟨status, s⟩ := r
    rw [attemptNode_eq bridge free t status s haligned, Option.map_eq_some_iff] at h
    obtain ⟨⟨x, g⟩, hsearch, rfl⟩ := h
    have hcases := runSearches_cases free t.space (s.nodes t).length _ s.gcd g x hsearch
    by_cases hx : x ≠ MAX_UINT64 ∧ hostBase bridge t x ≠ MAX_UINT64
    · dsimp only
      rw [if_pos hx]
      rcases hcases with ⟨hmax, -⟩ | ⟨-, q, hq, hasks, g', hheld, hgranted⟩
      · exact absurd hmax hx.1
      · exact Or.inr ⟨x, g', g, ⟨haligned, q, hq, hasks⟩, hx.1, hx.2, hheld, hgranted, rfl⟩
    · dsimp only
      rw [if_neg hx]
      refine Or.inl ⟨g, ?_, rfl⟩
      rcases hcases with ⟨-, hheld⟩ | ⟨-, q, hq, hasks, g', hheld, hgranted⟩
      · exact hheld
      · exact heldIn_trans hheld (heldIn_of_gcdAllocate free t.space _ x g' g hgranted)
  · rw [attemptNode_of_not_aligned bridge free t r haligned] at h
    rw [← Option.some.inj h]
    exact Or.inl ⟨r.2.gcd, heldIn_refl _, rfl⟩

/-- When `MAX_UINT64` cannot be granted, as an address or as a host address, an attempt
that gives the node nothing leaves the GCD as it was. -/
theorem attemptNode_kept (r r' : EfiStatus × HostBridgeState)
    (hmax : ∀ x, AsksFor bridge t (r.2.nodes t) x →
      Grantable free t.space (r.2.nodes t).length x r.2.gcd →
      x ≠ MAX_UINT64 ∧ hostBase bridge t x ≠ MAX_UINT64)
    (h : attemptNode bridge free t r = some r') :
    r'.2 = r.2 ∨
    (∃ x g, AsksFor bridge t (r.2.nodes t) x ∧
      gcdAllocate free t.space (r.2.nodes t).length x r.2.gcd = some g ∧
      r'.2 = r.2.grant bridge t x g) := by
  by_cases haligned : TranslationAligned bridge t (r.2.nodes t)
  · obtain ⟨status, s⟩ := r
    rw [attemptNode_eq bridge free t status s haligned, Option.map_eq_some_iff] at h
    obtain ⟨⟨x, g⟩, hsearch, rfl⟩ := h
    dsimp only at hmax ⊢
    have hedge (q : ApertureSearch) (hq : q ∈ searches bridge (s.nodes t) t)
        (hasks : q.Asks (s.nodes t).length MAX_UINT64) :
        ¬ Grantable free t.space (s.nodes t).length MAX_UINT64 s.gcd := fun hgrantable =>
      (hmax MAX_UINT64 ⟨haligned, q, hq, hasks⟩ hgrantable).1 rfl
    rcases runSearches_kept free t.space (s.nodes t).length _ s.gcd g x hedge hsearch with
      ⟨hx, rfl⟩ | ⟨-, q, hq, hasks, hgranted⟩
    · rw [if_neg fun hboth => hboth.1 hx]
      exact Or.inl rfl
    · have hasksFor : AsksFor bridge t (s.nodes t) x := ⟨haligned, q, hq, hasks⟩
      have hx := hmax x hasksFor (grantable_of_gcdAllocate free t.space _ x s.gcd g hgranted)
      rw [if_pos hx]
      exact Or.inr ⟨x, g, hasksFor, hgranted, rfl⟩
  · rw [attemptNode_of_not_aligned bridge free t r haligned] at h
    rw [← Option.some.inj h]
    exact Or.inl rfl

theorem attemptNode_ne_none (r : EfiStatus × HostBridgeState)
    (hends : TranslationAligned bridge t (r.2.nodes t) →
      ∀ q ∈ searches bridge (r.2.nodes t) t, q.Ends (r.2.nodes t).length) :
    attemptNode bridge free t r ≠ none := by
  by_cases haligned : TranslationAligned bridge t (r.2.nodes t)
  · obtain ⟨status, s⟩ := r
    rw [attemptNode_eq bridge free t status s haligned, ne_eq, Option.map_eq_none_iff]
    exact runSearches_ne_none free t.space _ _ s.gcd (hends haligned)
  · rw [attemptNode_of_not_aligned bridge free t r haligned]
    exact Option.some_ne_none _

end Attempt

/-! The sequence of attempts. -/

section Attempts

variable (bridge : PciHostBridge) (free : PciResourceType → GcdSpace → Span → Bool)

def attempts (l : List (PciResourceType × PciResourceType)) (r : EfiStatus × HostBridgeState) :
    Option (EfiStatus × HostBridgeState) :=
  l.foldlM (fun r p => attemptNode bridge (free p.1) p.2 r) r

theorem attempts_nil (r : EfiStatus × HostBridgeState) : attempts bridge free [] r = some r := rfl

theorem attempts_cons (p : PciResourceType × PciResourceType)
    (l : List (PciResourceType × PciResourceType)) (r : EfiStatus × HostBridgeState) :
    attempts bridge free (p :: l) r =
      (attemptNode bridge (free p.1) p.2 r).bind (attempts bridge free l) := rfl

theorem attempts_append (l l' : List (PciResourceType × PciResourceType))
    (r : EfiStatus × HostBridgeState) :
    attempts bridge free (l ++ l') r =
      (attempts bridge free l r).bind (attempts bridge free l') := by
  rw [attempts, List.foldlM_append]
  rfl

/-- An attempt leaves the other nodes and the flags as they are, keeps statuses that
are `ResNone` and all lengths and alignments, and gives no region back. -/
structure AttemptFrame (t : PciResourceType) (s s' : HostBridgeState) : Prop where
  others : ∀ u, u ≠ t → s'.nodes u = s.nodes u
  length : (s'.nodes t).length = (s.nodes t).length
  alignment : (s'.nodes t).alignment = (s.nodes t).alignment
  flags : s'.resourceSubmitted = s.resourceSubmitted ∧ s'.canRestart = s.canRestart
  held : HeldIn s.gcd s'.gcd

theorem nodes_grant_self (s : HostBridgeState) (t : PciResourceType) (x : U64) (gcd : Gcd) :
    (s.grant bridge t x gcd).nodes t =
      { s.nodes t with base := hostBase bridge t x, status := .allocated } :=
  Function.update_self _ _ _

theorem nodes_grant_of_ne (s : HostBridgeState) (t u : PciResourceType) (x : U64) (gcd : Gcd)
    (h : u ≠ t) : (s.grant bridge t x gcd).nodes u = s.nodes u :=
  Function.update_of_ne h _ _

theorem attemptFrame (t : PciResourceType) (free : GcdSpace → Span → Bool)
    (r r' : EfiStatus × HostBridgeState) (h : attemptNode bridge free t r = some r') :
    AttemptFrame t r.2 r'.2 := by
  rcases attemptNode_cases bridge free t r r' h with
    ⟨g, hheld, hstate⟩ | ⟨x, g, g', -, -, -, hheld, hgranted, hstate⟩
  · rw [hstate]
    exact ⟨fun _ _ => rfl, rfl, rfl, ⟨rfl, rfl⟩, hheld⟩
  · rw [hstate]
    have hnode := nodes_grant_self bridge r.2 t x g'
    refine ⟨fun u hu => nodes_grant_of_ne bridge r.2 t u x g' hu, ?_, ?_, ⟨rfl, rfl⟩, ?_⟩
    · rw [hnode]
    · rw [hnode]
    · exact heldIn_trans hheld (heldIn_of_gcdAllocate free t.space _ x g g' hgranted)

theorem status_none_attemptNode (t : PciResourceType) (free : GcdSpace → Span → Bool)
    (r r' : EfiStatus × HostBridgeState) (hblank : BlankNodes r.2.nodes)
    (h : attemptNode bridge free t r = some r') :
    (r'.2.nodes t).status = .none ↔ (r.2.nodes t).status = .none := by
  rcases attemptNode_cases bridge free t r r' h with
    ⟨g, -, hstate⟩ | ⟨x, g, g', -, -, -, -, hgranted, hstate⟩
  · rw [hstate]
  · have hlength : (r.2.nodes t).length.toNat > 0 :=
      (grantable_of_gcdAllocate free t.space _ x g g' hgranted).2.1.1
    rw [hstate, nodes_grant_self]
    refine ⟨fun hnone => by contradiction, fun hnone => ?_⟩
    rw [hblank t hnone] at hlength
    exact absurd hlength (Nat.lt_irrefl 0)

theorem sameKeys_attemptNode (t : PciResourceType) (free : GcdSpace → Span → Bool)
    (r r' : EfiStatus × HostBridgeState) (hblank : BlankNodes r.2.nodes)
    (h : attemptNode bridge free t r = some r') :
    SameKeys r'.2.nodes r.2.nodes ∧ BlankNodes r'.2.nodes := by
  have hframe := attemptFrame bridge t free r r' h
  have hnone := status_none_attemptNode bridge t free r r' hblank h
  constructor
  · intro u
    by_cases hu : u = t
    · rw [hu]
      exact ⟨hframe.alignment, hnone⟩
    · rw [hframe.others u hu]
      exact ⟨rfl, Iff.rfl⟩
  · intro u hu
    by_cases hut : u = t
    · rw [hut] at hu ⊢
      rw [hframe.length]
      exact hblank t (hnone.mp hu)
    · rw [hframe.others u hut] at hu ⊢
      exact hblank u hu

/-- The loop makes the attempts of the selections of its initial nodes. -/
theorem foldlM_allocateStep (l : List PciResourceType) (handled : PciResourceType → Bool)
    (r : EfiStatus × HostBridgeState) (hblank : BlankNodes r.2.nodes) :
    (l.foldlM (allocateStep bridge free) (handled, r)).map Prod.snd =
      attempts bridge free (selections r.2.nodes l handled) r := by
  induction l generalizing handled r with
  | nil => rfl
  | cons index1 rest ih =>
      rw [List.foldlM_cons, selections]
      by_cases hnone : (r.2.nodes index1).status = .none
      · rw [allocateStep, if_pos hnone, if_pos hnone]
        exact ih _ r hblank
      · rw [allocateStep, if_neg hnone, if_neg hnone]
        cases hselect : selectNode r.2.nodes handled with
        | none => exact ih handled r hblank
        | some index =>
            dsimp only
            rw [attempts_cons]
            cases hattempt : attemptNode bridge (free index1) index r with
            | none => rfl
            | some r' =>
                obtain ⟨hkeys, hblank'⟩ :=
                  sameKeys_attemptNode bridge index (free index1) r r' hblank hattempt
                rw [← selections_congr r'.2.nodes r.2.nodes hkeys]
                exact ih _ r' hblank'

/-- What the phase attempts, as pairs of `Index1` and `Index`. -/
def phaseSelections (s : HostBridgeState) : List (PciResourceType × PciResourceType) :=
  selections s.nodes resourceTypes fun _ => false

theorem allocateResourcesPhase_eq (s : HostBridgeState) (hblank : BlankNodes s.nodes)
    (hsubmitted : s.resourceSubmitted = true) :
    allocateResourcesPhase bridge free s =
      (attempts bridge free (phaseSelections s) (.ok (), s)).map
        fun (status, s) => (status, clearLengths s) := by
  have hloop := foldlM_allocateStep bridge free resourceTypes (fun _ => false) (.ok (), s) hblank
  dsimp only at hloop
  rw [allocateResourcesPhase, hsubmitted, phaseSelections, ← hloop, Option.map_map]
  rfl

theorem nodup_phaseSelections (s : HostBridgeState) :
    ((phaseSelections s).map Prod.snd).Nodup :=
  (selections_unhandled s.nodes resourceTypes _).2

theorem mem_phaseSelections (s : HostBridgeState) (p : PciResourceType × PciResourceType)
    (h : p ∈ phaseSelections s) : p.2 ∈ resourceTypes :=
  ((selections_unhandled s.nodes resourceTypes _).1 p h).2.2

end Attempts

/-! The lengths cleared at the end. -/

theorem clearLength_clearLength (node : PciResNode) :
    node.clearLength.clearLength = node.clearLength := by
  by_cases h : node.status = .allocated <;> simp [PciResNode.clearLength, h]

theorem nodes_foldl_clearLength (l : List PciResourceType) (s : HostBridgeState)
    (t : PciResourceType) :
    (l.foldl (fun s index => s.setNode index (s.nodes index).clearLength) s).nodes t =
      if t ∈ l then (s.nodes t).clearLength else s.nodes t := by
  induction l generalizing s with
  | nil => rfl
  | cons u rest ih =>
      rw [List.foldl_cons, ih, HostBridgeState.setNode]
      dsimp only
      by_cases htu : t = u
      · rw [htu, Function.update_self, clearLength_clearLength, ite_self,
          if_pos List.mem_cons_self]
      · rw [Function.update_of_ne htu]
        simp only [List.mem_cons, htu, false_or]

theorem nodes_clearLengths (s : HostBridgeState) (t : PciResourceType) :
    (clearLengths s).nodes t =
      if t ∈ resourceTypes then (s.nodes t).clearLength else s.nodes t :=
  nodes_foldl_clearLength resourceTypes s t

theorem status_clearLength (node : PciResNode) : node.clearLength.status = node.status := by
  rw [PciResNode.clearLength]
  split <;> rfl

theorem allocated_clearLengths (s : HostBridgeState) (t : PciResourceType) :
    (clearLengths s).Allocated t ↔ s.Allocated t := by
  rw [HostBridgeState.Allocated, HostBridgeState.Allocated, nodes_clearLengths]
  split
  · rw [status_clearLength]
  · rfl

theorem nodes_clearLengths_of_allocated (s : HostBridgeState) (t : PciResourceType)
    (h : s.Allocated t) : (clearLengths s).nodes t = s.nodes t := by
  rw [HostBridgeState.Allocated] at h
  rw [nodes_clearLengths, PciResNode.clearLength, if_neg (not_not.mpr h), ite_self]

end FdtBusPkg
