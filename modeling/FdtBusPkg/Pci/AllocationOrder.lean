import FdtBusPkg.Pci.SearchExact
import FdtBusPkg.Pci.SelectionOrder

/-!
What the allocation phase makes of the requests it takes in order: it returns when
their searches end, and its status tells whether all of them were given regions.
-/
namespace FdtBusPkg

section Outcome

variable (bridge : PciHostBridge)

theorem status_attemptNode (free : GcdSpace → Span → Bool) (t : PciResourceType)
    (r r' : EfiStatus × HostBridgeState) (hwaiting : ¬ r.2.Allocated t)
    (h : attemptNode bridge free t r = some r') :
    r'.1 = .ok () ↔ r.1 = .ok () ∧ r'.2.Allocated t := by
  obtain ⟨status, s⟩ := r
  by_cases haligned : TranslationAligned bridge t (s.nodes t)
  · rw [attemptNode_eq bridge free t status s haligned, Option.map_eq_some_iff] at h
    obtain ⟨⟨x, gcd⟩, -, rfl⟩ := h
    dsimp only
    split
    · have hstatus : (s.grant bridge t x gcd).Allocated t := by
        rw [HostBridgeState.Allocated, nodes_grant_self]
      simp [hstatus]
    · exact iff_of_false (by simp) fun hboth => hwaiting hboth.2
  · rw [attemptNode_of_not_aligned bridge free t (status, s) haligned] at h
    rw [← Option.some.inj h]
    exact iff_of_false (by simp) fun hboth => hwaiting hboth.2

theorem status_attempts (free : PciResourceType → GcdSpace → Span → Bool)
    (l : List (PciResourceType × PciResourceType)) (r r' : EfiStatus × HostBridgeState)
    (hnodup : (l.map Prod.snd).Nodup) (hwaiting : ∀ p ∈ l, ¬ r.2.Allocated p.2)
    (h : attempts bridge free l r = some r') :
    (r'.1 = .ok () ↔ r.1 = .ok () ∧ ∀ p ∈ l, r'.2.Allocated p.2) ∧
      ∀ t, t ∉ l.map Prod.snd → r'.2.nodes t = r.2.nodes t := by
  induction l generalizing r with
  | nil =>
      rw [attempts_nil, Option.some.injEq] at h
      rw [h]
      exact ⟨by simp, fun _ _ => rfl⟩
  | cons p l ih =>
      rw [attempts_cons, Option.bind_eq_some_iff] at h
      obtain ⟨r₁, hattempt, hrest⟩ := h
      rw [List.map_cons, List.nodup_cons] at hnodup
      have hframe := attemptFrame bridge p.2 (free p.1) r r₁ hattempt
      have hstatus := status_attemptNode bridge (free p.1) p.2 r r₁
        (hwaiting p List.mem_cons_self) hattempt
      have hwaiting₁ : ∀ p' ∈ l, ¬ r₁.2.Allocated p'.2 := by
        intro p' hp'
        have hne : p'.2 ≠ p.2 := fun heq =>
          hnodup.1 (heq ▸ List.mem_map_of_mem (f := Prod.snd) hp')
        rw [HostBridgeState.Allocated, hframe.others p'.2 hne]
        exact hwaiting p' (List.mem_cons_of_mem p hp')
      obtain ⟨hend, hkept⟩ := ih r₁ hnodup.2 hwaiting₁ hrest
      have hfirst : r'.2.Allocated p.2 ↔ r₁.2.Allocated p.2 := by
        rw [HostBridgeState.Allocated, HostBridgeState.Allocated, hkept p.2 hnodup.1]
      constructor
      · rw [hend, hstatus, List.forall_mem_cons, hfirst, and_assoc]
      · intro t ht
        rw [List.map_cons, List.mem_cons, not_or] at ht
        rw [hkept t ht.2, hframe.others t ht.1]

def SearchesEnd (t : PciResourceType) (node : PciResNode) : Prop :=
  TranslationAligned bridge t node → ∀ q ∈ searches bridge node t, q.Ends node.length

theorem searchesEnd_congr (t : PciResourceType) (node node' : PciResNode)
    (hlength : node.length = node'.length) (halignment : node.alignment = node'.alignment) :
    SearchesEnd bridge t node ↔ SearchesEnd bridge t node' := by
  have hsearches : searches bridge node t = searches bridge node' t := by
    cases t <;> simp only [searches, ioSearch, memorySearch, halignment]
  rw [SearchesEnd, SearchesEnd, TranslationAligned, TranslationAligned, hsearches, hlength,
    halignment]

theorem attempts_ne_none (free : PciResourceType → GcdSpace → Span → Bool)
    (l : List (PciResourceType × PciResourceType)) (r : EfiStatus × HostBridgeState)
    (h : ∀ p ∈ l, SearchesEnd bridge p.2 (r.2.nodes p.2)) : attempts bridge free l r ≠ none := by
  induction l generalizing r with
  | nil => exact Option.some_ne_none _
  | cons p l ih =>
      rw [attempts_cons]
      cases hattempt : attemptNode bridge (free p.1) p.2 r with
      | none =>
          exact absurd hattempt
            (attemptNode_ne_none bridge (free p.1) p.2 r (h p List.mem_cons_self))
      | some r₁ =>
          have hframe := attemptFrame bridge p.2 (free p.1) r r₁ hattempt
          apply ih r₁
          intro p' hp'
          have hends := h p' (List.mem_cons_of_mem p hp')
          by_cases hsame : p'.2 = p.2
          · rw [hsame] at hends ⊢
            exact (searchesEnd_congr bridge p.2 _ _ hframe.length hframe.alignment).mpr hends
          · rw [hframe.others p'.2 hsame]
            exact hends

theorem searchesEnd_of_attempts (l : List (PciResourceType × PciResourceType))
    (r : EfiStatus × HostBridgeState)
    (h : attempts bridge (fun _ _ _ => false) l r ≠ none) :
    ∀ p ∈ l, SearchesEnd bridge p.2 (r.2.nodes p.2) := by
  induction l generalizing r with
  | nil => exact List.forall_mem_nil _
  | cons p l ih =>
      rw [attempts_cons] at h
      cases hattempt : attemptNode bridge (fun _ _ => false) p.2 r with
      | none =>
          rw [hattempt] at h
          exact absurd rfl h
      | some r₁ =>
          rw [hattempt, Option.bind_some] at h
          have hframe := attemptFrame bridge p.2 _ r r₁ hattempt
          rw [List.forall_mem_cons]
          constructor
          · intro haligned
            obtain ⟨status, s⟩ := r
            have hsearch : attemptSearches bridge (fun _ _ => false) p.2 s ≠ none := by
              intro hnone
              rw [attemptNode_eq bridge _ p.2 status s haligned, hnone] at hattempt
              contradiction
            exact ends_of_runSearches _ p.2.space _ _ s.gcd
              (fun y hgrantable => Bool.false_ne_true hgrantable.1) hsearch
          · intro p' hp'
            have hends := ih r₁ h p' hp'
            by_cases hsame : p'.2 = p.2
            · rw [hsame] at hends ⊢
              exact (searchesEnd_congr bridge p.2 _ _ hframe.length hframe.alignment).mp hends
            · rwa [hframe.others p'.2 hsame] at hends

end Outcome

/-- A root bridge with submitted requests, of any subset of the types. -/
structure SubmittedRequests where
  bridge : PciHostBridge
  state : HostBridgeState
  submitted : state.resourceSubmitted = true
  waiting : ∀ t ∈ resourceTypes, ¬ state.Allocated t
  blank : ∀ t, (state.nodes t).status = .none → state.nodes t = ⟨0, 0, 0, .none⟩

namespace SubmittedRequests

variable (r : SubmittedRequests)

/-- The phase attempts every request once, in order of alignment; it returns, with
success exactly when all of them were given regions, and nodes without have no length. -/
def HandledInOrder : Prop :=
  InOrder r.state.nodes ((phaseSelections r.state).map Prod.snd) ∧
    ∀ free, allocateResourcesPhase r.bridge free r.state =
        ((attempts r.bridge free (phaseSelections r.state) (.ok (), r.state)).map
          fun (status, s) => (status, clearLengths s)) ∧
      ∃ status s, allocateResourcesPhase r.bridge free r.state = some (status, s) ∧
        (status = .ok () ↔
          ∀ t ∈ resourceTypes, Requested r.state.nodes t → s.Allocated t) ∧
        ∀ t ∈ resourceTypes, ¬ s.Allocated t → (s.nodes t).length = 0

/-- The comparison stops every search for a request in an aperture. -/
def SearchesStop : Prop :=
  ∀ t ∈ resourceTypes, Requested r.state.nodes t →
    TranslationAligned r.bridge t (r.state.nodes t) →
      ∀ q ∈ searches r.bridge (r.state.nodes t) t,
        q.baseAddress < q.limit → q.Stops (r.state.nodes t).length

theorem absentUnaligned : AbsentUnaligned r.state.nodes := by
  intro t ht
  rw [r.blank t (not_not.mp ht)]

theorem blankNodes : BlankNodes r.state.nodes := by
  intro t ht
  rw [r.blank t ht]

theorem searchesStop_iff :
    r.SearchesStop ↔ ∀ t ∈ resourceTypes, Requested r.state.nodes t →
      SearchesEnd r.bridge t (r.state.nodes t) := by
  refine forall₃_congr fun t _ _ => forall_congr' fun _ => forall₂_congr fun q hq => ?_
  obtain ⟨a, rfl⟩ := exists_aperture_of_mem_searches r.bridge (r.state.nodes t) t q hq
  exact (ApertureSearch.ends_iff _ _ (bits_phaseSearch_lt r.bridge (r.state.nodes t) a)).symm

theorem exists_selection_iff (h : InOrder r.state.nodes ((phaseSelections r.state).map Prod.snd))
    (t : PciResourceType) :
    (∃ p ∈ phaseSelections r.state, p.2 = t) ↔ t ∈ resourceTypes ∧ Requested r.state.nodes t := by
  have hmem := h.requests.mem_iff (a := t)
  rw [List.mem_map, List.mem_filter, decide_eq_true_eq] at hmem
  exact hmem

theorem outcome_of_inOrder (h : InOrder r.state.nodes ((phaseSelections r.state).map Prod.snd))
    (free : PciResourceType → GcdSpace → Span → Bool) (status : EfiStatus) (s : HostBridgeState)
    (hrun : attempts r.bridge free (phaseSelections r.state) (.ok (), r.state) =
      some (status, s)) :
    (status = .ok () ↔
        ∀ t ∈ resourceTypes, Requested r.state.nodes t → (clearLengths s).Allocated t) ∧
      ∀ t ∈ resourceTypes, ¬ (clearLengths s).Allocated t →
        ((clearLengths s).nodes t).length = 0 := by
  have hwaiting : ∀ p ∈ phaseSelections r.state, ¬ r.state.Allocated p.2 := fun p hp =>
    r.waiting p.2 (mem_phaseSelections r.state p hp)
  obtain ⟨hstatus, -⟩ := status_attempts r.bridge free _ (.ok (), r.state) (status, s)
    (nodup_phaseSelections r.state) hwaiting hrun
  constructor
  · rw [hstatus]
    simp only [true_and]
    constructor
    · intro hall t ht hrequested
      obtain ⟨p, hp, rfl⟩ := (r.exists_selection_iff h t).mpr ⟨ht, hrequested⟩
      exact (allocated_clearLengths s p.2).mpr (hall p hp)
    · intro hall p hp
      obtain ⟨ht, hrequested⟩ := (r.exists_selection_iff h p.2).mp ⟨p, hp, rfl⟩
      exact (allocated_clearLengths s p.2).mp (hall p.2 ht hrequested)
  · intro t ht hnot
    rw [allocated_clearLengths] at hnot
    have hstatus : (s.nodes t).status ≠ .allocated := hnot
    rw [nodes_clearLengths, if_pos ht, PciResNode.clearLength, if_pos hstatus]

end SubmittedRequests

/-- The requests are handled in order if and only if the ties are behind the types
without a request and every search for a request is stopped. -/
theorem handledInOrder_iff (r : SubmittedRequests) :
    r.HandledInOrder ↔ TiesBehind r.state.nodes ∧ r.SearchesStop := by
  have hphase (free : PciResourceType → GcdSpace → Span → Bool) :=
    allocateResourcesPhase_eq r.bridge free r.state r.blankNodes r.submitted
  rw [← inOrder_iff r.state r.absentUnaligned, r.searchesStop_iff]
  refine and_congr_right fun horder => ?_
  constructor
  · intro h t ht hrequested
    obtain ⟨p, hp, rfl⟩ := (r.exists_selection_iff horder t).mpr ⟨ht, hrequested⟩
    obtain ⟨-, status, s, hrun, -⟩ := h fun _ _ _ => false
    refine searchesEnd_of_attempts r.bridge (phaseSelections r.state) (.ok (), r.state)
      (fun hnone => ?_) p hp
    rw [hphase, hnone] at hrun
    contradiction
  · intro h free
    refine ⟨hphase free, ?_⟩
    have hreturns := attempts_ne_none r.bridge free (phaseSelections r.state) (.ok (), r.state)
      fun p hp => by
        obtain ⟨ht, hrequested⟩ := (r.exists_selection_iff horder p.2).mp ⟨p, hp, rfl⟩
        exact h p.2 ht hrequested
    obtain ⟨⟨status, s⟩, hrun⟩ := Option.ne_none_iff_exists'.mp hreturns
    refine ⟨status, clearLengths s, ?_, r.outcome_of_inOrder horder free status s hrun⟩
    rw [hphase, hrun]
    rfl

/-- One byte of I/O space without alignment is all that is requested. -/
def unalignedRequest : SubmittedRequests where
  bridge := rootBridgeAlloc busesOnlyNode.dtIo 1
  state := { hostBridgeInit with
    nodes := Function.update hostBridgeInit.nodes .io ⟨0, 1, 0, .submitted⟩
    resourceSubmitted := true }
  submitted := rfl
  waiting := by decide
  blank := by
    intro t ht
    cases t with
    | io => contradiction
    | mem32 | pMem32 | mem64 | pMem64 | bus => rfl

/-- The last memory type is selected in its place. -/
theorem unalignedRequest_not_selected : ¬ unalignedRequest.HandledInOrder := by
  rintro ⟨⟨hperm, -⟩, -⟩
  exact absurd (hperm.mem_iff (a := .io)) (by decide)

end FdtBusPkg
