import FdtBusPkg.Pci.AllocatePhase

/-!
The order in which the allocation phase takes the requests. Each selection is the
unhandled node of the greatest rank, that is of the greatest alignment and among
equals the last of the table; nodes nothing was requested for take part until the
loop has come to them.
-/
namespace FdtBusPkg

def PciResourceType.position : PciResourceType → Nat
  | .io => 0
  | .mem32 => 1
  | .pMem32 => 2
  | .mem64 => 3
  | .pMem64 => 4
  | .bus => 5

section Selection

variable (nodes : PciResourceType → PciResNode) (handled : PciResourceType → Bool)

def Requested (t : PciResourceType) : Prop := (nodes t).status ≠ .none

instance (t : PciResourceType) : Decidable (Requested nodes t) :=
  inferInstanceAs (Decidable (_ ≠ _))

def rank (t : PciResourceType) : Nat := (nodes t).alignment.toNat * 8 + t.position

theorem position_lt (t : PciResourceType) : t.position < 8 := by
  cases t <;> decide

theorem rank_inj (t u : PciResourceType) (h : rank nodes t = rank nodes u) : t = u := by
  have ht := position_lt t
  have hu := position_lt u
  have hposition : t.position = u.position := by
    rw [rank, rank] at h
    omega
  cases t <;> cases u <;> first | rfl | contradiction

theorem alignment_le_of_rank_lt (t u : PciResourceType) (h : rank nodes t < rank nodes u) :
    (nodes t).alignment ≤ (nodes u).alignment := by
  have hu := position_lt u
  rw [rank, rank] at h
  rw [BitVec.le_def]
  omega

theorem positions_increase :
    resourceTypes.Pairwise fun t u => t.position < u.position := by
  decide

/-- The best node of the part of the table seen so far. -/
def BestOf (seen : List PciResourceType) (best : U64 × Option PciResourceType) : Prop :=
  match best.2 with
  | none => best.1 = 0 ∧ ∀ u ∈ seen, handled u = true
  | some m => best.1 = (nodes m).alignment ∧ m ∈ seen ∧ handled m = false ∧
      ∀ u ∈ seen, handled u = false → rank nodes u ≤ rank nodes m

theorem bestOf_handled (seen : List PciResourceType) (best : U64 × Option PciResourceType)
    (t : PciResourceType) (hhandled : handled t = true) (h : BestOf nodes handled seen best) :
    BestOf nodes handled (seen ++ [t]) best := by
  obtain ⟨alignment, found⟩ := best
  cases found with
  | none =>
      refine ⟨h.1, fun u hu => ?_⟩
      rcases List.mem_append.mp hu with hu | hu
      · exact h.2 u hu
      · rw [List.mem_singleton.mp hu, hhandled]
  | some m =>
      obtain ⟨halignment, hm, hmhandled, hbest⟩ := h
      refine ⟨halignment, List.mem_append_left _ hm, hmhandled, fun u hu hunhandled => ?_⟩
      rcases List.mem_append.mp hu with hu | hu
      · exact hbest u hu hunhandled
      · rw [List.mem_singleton.mp hu, hhandled] at hunhandled
        contradiction

theorem bestOf_new (seen : List PciResourceType) (t : PciResourceType)
    (hunhandled : handled t = false)
    (hbest : ∀ u ∈ seen, handled u = false → rank nodes u ≤ rank nodes t) :
    BestOf nodes handled (seen ++ [t]) ((nodes t).alignment, some t) := by
  refine ⟨rfl, List.mem_append_right _ (List.mem_singleton_self t), hunhandled,
    fun u hu huunhandled => ?_⟩
  rcases List.mem_append.mp hu with hu | hu
  · exact hbest u hu huunhandled
  · rw [List.mem_singleton.mp hu]

theorem bestOf_selectStep (seen : List PciResourceType) (best : U64 × Option PciResourceType)
    (t : PciResourceType) (hlast : ∀ u ∈ seen, u.position < t.position)
    (h : BestOf nodes handled seen best) :
    BestOf nodes handled (seen ++ [t]) (selectStep nodes handled best t) := by
  obtain ⟨alignment, found⟩ := best
  rw [selectStep]
  cases hhandled : handled t with
  | true =>
      rw [if_pos rfl]
      exact bestOf_handled nodes handled seen _ t hhandled h
  | false =>
      rw [if_neg Bool.false_ne_true]
      cases found with
      | none =>
          obtain ⟨hzero, hall⟩ := h
          have hle : alignment ≤ (nodes t).alignment := by
            rw [show alignment = 0 from hzero, BitVec.le_def]
            exact Nat.zero_le _
          rw [if_pos hle]
          refine bestOf_new nodes handled seen t hhandled fun u hu hunhandled => ?_
          rw [hall u hu] at hunhandled
          contradiction
      | some m =>
          obtain ⟨halignment, hm, hmhandled, hbest⟩ := h
          dsimp only at halignment ⊢
          have hmt := hlast m hm
          split
          · next hle =>
              refine bestOf_new nodes handled seen t hhandled fun u hu hunhandled =>
                (hbest u hu hunhandled).trans ?_
              rw [halignment, BitVec.le_def] at hle
              rw [rank, rank]
              omega
          · next hle =>
              refine ⟨halignment, List.mem_append_left _ hm, hmhandled,
                fun u hu hunhandled => ?_⟩
              rcases List.mem_append.mp hu with hu | hu
              · exact hbest u hu hunhandled
              · have ht := position_lt t
                rw [halignment, BitVec.le_def] at hle
                rw [List.mem_singleton.mp hu, rank, rank]
                omega

theorem bestOf_foldl (l : List PciResourceType)
    (hl : l.Pairwise fun t u => t.position < u.position) :
    BestOf nodes handled l (l.foldl (selectStep nodes handled) (0, none)) := by
  induction l using List.reverseRecOn with
  | nil => exact ⟨rfl, List.forall_mem_nil _⟩
  | append_singleton l t ih =>
      rw [List.pairwise_append] at hl
      rw [List.foldl_append, List.foldl_cons, List.foldl_nil]
      exact bestOf_selectStep nodes handled l _ t
        (fun u hu => hl.2.2 u hu t (List.mem_singleton_self t)) (ih hl.1)

theorem selectNode_greatest (m : PciResourceType) (h : selectNode nodes handled = some m) :
    m ∈ resourceTypes ∧ handled m = false ∧
      ∀ u ∈ resourceTypes, handled u = false → rank nodes u ≤ rank nodes m := by
  have hbest := bestOf_foldl nodes handled resourceTypes positions_increase
  rw [BestOf, show (resourceTypes.foldl (selectStep nodes handled) (0, none)).2 = some m from h]
    at hbest
  exact hbest.2

theorem exists_selectNode (u : PciResourceType) (hu : u ∈ resourceTypes)
    (hunhandled : handled u = false) : ∃ m, selectNode nodes handled = some m := by
  have hbest := bestOf_foldl nodes handled resourceTypes positions_increase
  cases hselect : selectNode nodes handled with
  | some m => exact ⟨m, rfl⟩
  | none =>
      rw [BestOf,
        show (resourceTypes.foldl (selectStep nodes handled) (0, none)).2 = none from hselect]
        at hbest
      rw [hbest.2 u hu] at hunhandled
      contradiction

/-- The number of requests that are selected before `a`. -/
def outranking (a : PciResourceType) : Nat :=
  resourceTypes.countP fun t => Requested nodes t ∧ rank nodes a < rank nodes t

/-- The loop after the types in `seen`, as long as it has selected requests only: the
nodes in `order`, which are those of the greatest ranks. -/
structure Progress (seen order : List PciResourceType) : Prop where
  handled_iff : ∀ t ∈ resourceTypes,
    handled t = true ↔ (t ∈ seen ∧ ¬ Requested nodes t) ∨ t ∈ order
  requested : ∀ t ∈ order, t ∈ resourceTypes ∧ Requested nodes t
  length_eq : order.length = seen.countP (Requested nodes ·)
  decreasing : order.Pairwise fun t u => rank nodes u < rank nodes t
  greatest : ∀ t ∈ order, ∀ u ∈ resourceTypes, Requested nodes u → u ∉ order →
    rank nodes u < rank nodes t

section Steps

variable {nodes handled}
variable {seen order : List PciResourceType} (h : Progress nodes handled seen order)
include h

theorem Progress.not_selected (t : PciResourceType) (ht : t ∈ resourceTypes)
    (hunhandled : handled t = false) : t ∉ order := by
  intro hin
  rw [(h.handled_iff t ht).mpr (Or.inr hin)] at hunhandled
  contradiction

theorem Progress.unhandled_of_request (t : PciResourceType) (ht : t ∈ resourceTypes)
    (hrequested : Requested nodes t) (hnot : t ∉ order) : handled t = false := by
  rw [← Bool.not_eq_true, h.handled_iff t ht, not_or, not_and, not_not]
  exact ⟨fun _ => hrequested, hnot⟩

theorem Progress.pass (i : PciResourceType) (habsent : ¬ Requested nodes i) :
    Progress nodes (Function.update handled i true) (seen ++ [i]) order where
  handled_iff := fun t ht => by
    by_cases hti : t = i
    · rw [hti, Function.update_self]
      exact iff_of_true rfl
        (Or.inl ⟨List.mem_append_right _ (List.mem_singleton_self i), habsent⟩)
    · rw [Function.update_of_ne hti, h.handled_iff t ht, List.mem_append, List.mem_singleton]
      simp only [hti, or_false]
  requested := h.requested
  length_eq := by
    rw [List.countP_append, List.countP_singleton, if_neg (by simpa using habsent), Nat.add_zero]
    exact h.length_eq
  decreasing := h.decreasing
  greatest := h.greatest

theorem Progress.select (i m : PciResourceType) (hi : Requested nodes i)
    (hselect : selectNode nodes handled = some m) (hm : Requested nodes m) :
    Progress nodes (Function.update handled m true) (seen ++ [i]) (order ++ [m]) := by
  obtain ⟨hmem, hunhandled, hgreatest⟩ := selectNode_greatest nodes handled m hselect
  have hnew := h.not_selected m hmem hunhandled
  refine ⟨fun t ht => ?_, fun t ht => ?_, ?_, ?_, fun t ht u hu hrequested hnot => ?_⟩
  · by_cases htm : t = m
    · rw [htm, Function.update_self]
      exact iff_of_true rfl (Or.inr (List.mem_append_right _ (List.mem_singleton_self m)))
    · rw [Function.update_of_ne htm, h.handled_iff t ht, List.mem_append, List.mem_append,
        List.mem_singleton, List.mem_singleton]
      simp only [htm, or_false]
      constructor
      · rintro (⟨hseen, habsent⟩ | hin)
        · exact Or.inl ⟨Or.inl hseen, habsent⟩
        · exact Or.inr hin
      · rintro (⟨hseen | hti, habsent⟩ | hin)
        · exact Or.inl ⟨hseen, habsent⟩
        · rw [hti] at habsent
          exact absurd hi habsent
        · exact Or.inr hin
  · rcases List.mem_append.mp ht with ht | ht
    · exact h.requested t ht
    · rw [List.mem_singleton.mp ht]
      exact ⟨hmem, hm⟩
  · rw [List.length_append, List.length_singleton, List.countP_append, List.countP_singleton,
      if_pos (by simpa using hi), h.length_eq]
  · rw [List.pairwise_append]
    refine ⟨h.decreasing, List.pairwise_singleton _ _, fun t ht u hu => ?_⟩
    rw [List.mem_singleton.mp hu]
    exact h.greatest t ht m hmem hm hnew
  · rw [List.mem_append, List.mem_singleton, not_or] at hnot
    rcases List.mem_append.mp ht with ht | ht
    · exact h.greatest t ht u hu hrequested hnot.1
    · rw [List.mem_singleton.mp ht]
      have hu' := h.unhandled_of_request u hu hrequested hnot.1
      refine Nat.lt_of_le_of_ne (hgreatest u hu hu') fun heq => ?_
      exact hnot.2 (rank_inj nodes u m heq)

theorem Progress.nodup : order.Nodup :=
  h.decreasing.imp fun hlt heq => absurd (heq ▸ hlt) (Nat.lt_irrefl _)

theorem Progress.exists_unhandled (i : PciResourceType) (rest : List PciResourceType)
    (hsplit : seen ++ i :: rest = resourceTypes) (hi : Requested nodes i) :
    ∃ u ∈ resourceTypes, Requested nodes u ∧ handled u = false := by
  by_contra hnone
  have hsubset : resourceTypes.filter (Requested nodes ·) ⊆ order := by
    intro u hu
    rw [List.mem_filter, decide_eq_true_eq] at hu
    by_contra hnot
    exact hnone ⟨u, hu.1, hu.2, h.unhandled_of_request u hu.1 hu.2 hnot⟩
  have hnodup : (resourceTypes.filter (Requested nodes ·)).Nodup :=
    List.Nodup.filter _ (by decide)
  have hle := (hnodup.subperm hsubset).length_le
  rw [← List.countP_eq_length_filter, ← hsplit, List.countP_append, List.countP_cons,
    if_pos (by simpa using hi), h.length_eq] at hle
  omega

/-- A request that is selected outranks each type further on without one, and so do
those selected before it. -/
theorem Progress.outranked_of_selected (i m a : PciResourceType) (rest : List PciResourceType)
    (hsplit : seen ++ i :: rest = resourceTypes) (hi : Requested nodes i)
    (hselect : selectNode nodes handled = some m) (hm : Requested nodes m) (ha : a ∈ rest)
    (habsent : ¬ Requested nodes a) :
    seen.countP (Requested nodes ·) + 1 ≤ outranking nodes a := by
  obtain ⟨hmem, hunhandled, hgreatest⟩ := selectNode_greatest nodes handled m hselect
  have hnodup : (seen ++ i :: rest).Nodup := by
    rw [hsplit]
    decide
  have htype : a ∈ resourceTypes := by
    rw [← hsplit]
    exact List.mem_append_right _ (List.mem_cons_of_mem i ha)
  have hnotSeen : a ∉ seen := fun hseen =>
    (List.nodup_append.mp hnodup).2.2 a hseen a (List.mem_cons_of_mem i ha) rfl
  have haunhandled : handled a = false := by
    rw [← Bool.not_eq_true, h.handled_iff a htype, not_or, not_and]
    exact ⟨fun hseen => absurd hseen hnotSeen, fun hin => habsent (h.requested a hin).2⟩
  have hlt : rank nodes a < rank nodes m := by
    refine Nat.lt_of_le_of_ne (hgreatest a htype haunhandled) fun heq => ?_
    exact habsent (rank_inj nodes a m heq ▸ hm)
  have hnext := h.select i m hi hselect hm
  have hsubset : order ++ [m] ⊆ resourceTypes.filter fun t =>
      Requested nodes t ∧ rank nodes a < rank nodes t := by
    intro t ht
    obtain ⟨httype, hrequested⟩ := hnext.requested t ht
    rw [List.mem_filter, decide_eq_true_eq]
    refine ⟨httype, hrequested, ?_⟩
    rcases List.mem_append.mp ht with ht | ht
    · exact hlt.trans (h.greatest t ht m hmem hm (h.not_selected m hmem hunhandled))
    · rw [List.mem_singleton.mp ht]
      exact hlt
  have hle := (hnext.nodup.subperm hsubset).length_le
  rwa [List.length_append, List.length_singleton, h.length_eq,
    ← List.countP_eq_length_filter] at hle

/-- A type without a request that is selected lies ahead, and only the requests selected
before it outrank it. -/
theorem Progress.ahead_of_absent (i m : PciResourceType) (rest : List PciResourceType)
    (hsplit : seen ++ i :: rest = resourceTypes) (hi : Requested nodes i)
    (hselect : selectNode nodes handled = some m) (habsent : ¬ Requested nodes m) :
    m ∈ rest ∧ outranking nodes m ≤ seen.countP (Requested nodes ·) := by
  obtain ⟨hmem, hunhandled, hgreatest⟩ := selectNode_greatest nodes handled m hselect
  constructor
  · rw [← hsplit, List.mem_append, List.mem_cons] at hmem
    rcases hmem with hseen | hmi | hrest
    · rw [(h.handled_iff m (by rw [← hsplit]; exact List.mem_append_left _ hseen)).mpr
        (Or.inl ⟨hseen, habsent⟩)] at hunhandled
      contradiction
    · rw [hmi] at habsent
      exact absurd hi habsent
    · exact hrest
  · have hsubset : (resourceTypes.filter fun t =>
        Requested nodes t ∧ rank nodes m < rank nodes t) ⊆ order := by
      intro t ht
      rw [List.mem_filter, decide_eq_true_eq] at ht
      obtain ⟨httype, hrequested, hlt⟩ := ht
      by_contra hnot
      have htunhandled := h.unhandled_of_request t httype hrequested hnot
      exact absurd (hgreatest t httype htunhandled) (Nat.not_le.mpr hlt)
    have hfilter : (resourceTypes.filter fun t =>
        Requested nodes t ∧ rank nodes m < rank nodes t).Nodup := List.Nodup.filter _ (by decide)
    have hle := (hfilter.subperm hsubset).length_le
    rwa [← List.countP_eq_length_filter, h.length_eq] at hle

/-- A request is selected unless a type further on without a request has too few above
it. -/
theorem Progress.selected_requested_iff (i m : PciResourceType) (rest : List PciResourceType)
    (hsplit : seen ++ i :: rest = resourceTypes) (hi : Requested nodes i)
    (hselect : selectNode nodes handled = some m) :
    Requested nodes m ↔
      ∀ a ∈ rest, ¬ Requested nodes a →
        seen.countP (Requested nodes ·) + 1 ≤ outranking nodes a := by
  constructor
  · intro hm a ha habsent
    exact h.outranked_of_selected i m a rest hsplit hi hselect hm ha habsent
  · intro houtranked
    by_contra habsent
    obtain ⟨hrest, hfew⟩ := h.ahead_of_absent i m rest hsplit hi hselect habsent
    have hmany := houtranked m hrest habsent
    omega

end Steps

/-- At every request, the types further on without one are outranked by more requests
than have been selected. -/
def Outranked (seen rest : List PciResourceType) : Prop :=
  ∀ before i after, rest = before ++ i :: after → Requested nodes i →
    ∀ a ∈ after, ¬ Requested nodes a →
      (seen ++ before).countP (Requested nodes ·) + 1 ≤ outranking nodes a

theorem outranked_cons_iff (seen rest : List PciResourceType) (i : PciResourceType) :
    Outranked nodes seen (i :: rest) ↔
      (Requested nodes i → ∀ a ∈ rest, ¬ Requested nodes a →
        seen.countP (Requested nodes ·) + 1 ≤ outranking nodes a) ∧
      Outranked nodes (seen ++ [i]) rest := by
  constructor
  · intro h
    refine ⟨fun hi a ha habsent => ?_, fun before j after hrest => ?_⟩
    · have hhead := h [] i rest rfl hi a ha habsent
      rwa [List.append_nil] at hhead
    · have htail := h (i :: before) j after (by rw [hrest, List.cons_append])
      rwa [List.append_cons] at htail
  · rintro ⟨hhead, htail⟩ before j after hrest hj a ha habsent
    cases before with
    | nil =>
        obtain ⟨rfl, rfl⟩ := List.cons.inj hrest
        rw [List.append_nil]
        exact hhead hj a ha habsent
    | cons k before =>
        obtain ⟨rfl, hrest'⟩ := List.cons.inj hrest
        rw [List.append_cons]
        exact htail before j after hrest' hj a ha habsent

/-- The rest of the loop selects requests only if and only if they outrank the types
without one, and then ends with all of them selected. -/
theorem selections_requested (seen rest order : List PciResourceType)
    (hsplit : seen ++ rest = resourceTypes) (h : Progress nodes handled seen order) :
    ((∀ p ∈ selections nodes rest handled, Requested nodes p.2) ↔
        Outranked nodes seen rest) ∧
      ((∀ p ∈ selections nodes rest handled, Requested nodes p.2) → ∃ handled',
        Progress nodes handled' resourceTypes
          (order ++ (selections nodes rest handled).map Prod.snd)) := by
  induction rest generalizing seen order handled with
  | nil =>
      rw [List.append_nil] at hsplit
      rw [selections, List.map_nil, List.append_nil, ← hsplit]
      refine ⟨iff_of_true (List.forall_mem_nil _) fun before i after hnil => ?_,
        fun _ => ⟨handled, h⟩⟩
      exact absurd hnil (by simp)
  | cons i rest ih =>
      have hnext : (seen ++ [i]) ++ rest = resourceTypes := by
        rw [← hsplit, List.append_assoc, List.singleton_append]
      rw [outranked_cons_iff, selections]
      by_cases hi : (nodes i).status = .none
      · have habsent : ¬ Requested nodes i := not_not.mpr hi
        rw [if_pos hi]
        simp only [habsent, false_implies, true_and]
        exact ih _ (seen ++ [i]) order hnext (h.pass i habsent)
      · obtain ⟨u, hu, -, hunhandled⟩ := h.exists_unhandled i rest hsplit hi
        obtain ⟨m, hselect⟩ := exists_selectNode nodes handled u hu hunhandled
        have hiff := h.selected_requested_iff i m rest hsplit hi hselect
        rw [if_neg hi, hselect, List.forall_mem_cons, List.map_cons]
        by_cases hm : Requested nodes m
        · obtain ⟨hrest, hdone⟩ := ih _ (seen ++ [i]) (order ++ [m]) hnext
            (h.select i m hi hselect hm)
          refine ⟨and_congr ?_ hrest, fun hall => ?_⟩
          · exact iff_of_true hm fun _ => hiff.mp hm
          · have hend := hdone hall.2
            rwa [List.append_assoc, List.singleton_append] at hend
        · refine ⟨iff_of_false (fun hall => hm hall.1) fun hall => hm (hiff.mpr (hall.1 hi)),
            fun hall => absurd hall.1 hm⟩

end Selection

section Order

variable (nodes : PciResourceType → PciResNode)

/-- Every request once and nothing else, the greatest alignment first. -/
structure InOrder (order : List PciResourceType) : Prop where
  requests : order.Perm (resourceTypes.filter (Requested nodes ·))
  alignments : order.Pairwise fun t u => (nodes u).alignment ≤ (nodes t).alignment

/-- Types without a request have alignment zero. -/
def AbsentUnaligned : Prop := ∀ t, ¬ Requested nodes t → (nodes t).alignment = 0

/-- In front of each type without a request there are at most as many requests of
alignment zero as there are requests behind it. -/
def TiesBehind : Prop :=
  ∀ before a after, resourceTypes = before ++ a :: after → ¬ Requested nodes a →
    (before.countP fun t => Requested nodes t ∧ (nodes t).alignment = 0) ≤
      after.countP (Requested nodes ·)

/-- A count that stays below a bound at every counted element does so at the end. -/
theorem countP_le_of_counted {α : Type} (p : α → Bool) (l : List α) (bound : Nat)
    (h : ∀ before x after, l = before ++ x :: after → p x = true →
      before.countP p + 1 ≤ bound) :
    l.countP p ≤ bound := by
  induction l using List.reverseRecOn with
  | nil => exact Nat.zero_le _
  | append_singleton l x ih =>
      rw [List.countP_append, List.countP_singleton]
      split
      · next hx => exact h l x [] rfl hx
      · apply ih
        intro before y after hl
        exact h before y (after ++ [x]) (by rw [hl, List.append_assoc, List.cons_append])

theorem outranking_eq (habsent : AbsentUnaligned nodes) (before after : List PciResourceType)
    (a : PciResourceType) (hsplit : resourceTypes = before ++ a :: after)
    (ha : ¬ Requested nodes a) :
    outranking nodes a + (before.countP fun t => Requested nodes t ∧ (nodes t).alignment = 0) =
      before.countP (Requested nodes ·) + after.countP (Requested nodes ·) := by
  have hpositions := positions_increase
  rw [hsplit, List.pairwise_append, List.pairwise_cons] at hpositions
  obtain ⟨-, ⟨hafter, -⟩, hbefore⟩ := hpositions
  have hzero : (nodes a).alignment.toNat = 0 := by
    rw [habsent a ha]
    rfl
  have ha8 := position_lt a
  have hlow : (before.countP fun t => Requested nodes t ∧ rank nodes a < rank nodes t) =
      before.countP fun t => Requested nodes t ∧ ¬ (nodes t).alignment = 0 := by
    apply List.countP_congr
    intro t ht
    have hlt := hbefore t ht a List.mem_cons_self
    rw [decide_eq_true_eq, decide_eq_true_eq, ← BitVec.toNat_inj, rank, rank, hzero]
    refine and_congr_right fun _ => ?_
    change _ ↔ ¬ (nodes t).alignment.toNat = 0
    omega
  have hhigh : (after.countP fun t => Requested nodes t ∧ rank nodes a < rank nodes t) =
      after.countP (Requested nodes ·) := by
    apply List.countP_congr
    intro t ht
    have hlt := hafter t ht
    rw [decide_eq_true_eq, decide_eq_true_eq, rank, rank, hzero]
    refine and_iff_left_of_imp fun _ => ?_
    omega
  have hparts : before.countP (Requested nodes ·) =
      (before.countP fun t => Requested nodes t ∧ (nodes t).alignment = 0) +
        before.countP fun t => Requested nodes t ∧ ¬ (nodes t).alignment = 0 := by
    have hfilter := List.length_eq_countP_add_countP
      (fun t => decide ((nodes t).alignment = 0)) (l := before.filter (Requested nodes ·))
    rw [← List.countP_eq_length_filter, List.countP_filter, List.countP_filter] at hfilter
    rw [hfilter]
    congr 1
    · apply List.countP_congr
      intro t _
      simp [and_comm]
    · apply List.countP_congr
      intro t _
      simp [and_comm]
  have hself : decide (Requested nodes a ∧ rank nodes a < rank nodes a) = false :=
    decide_eq_false fun hboth => ha hboth.1
  rw [outranking, hsplit, List.countP_append, List.countP_cons, hself, hlow, hhigh, hparts]
  simp only [Bool.false_eq_true, if_false]
  omega

/-- With absent types unaligned, the requests outrank them when the ties are behind. -/
theorem outranked_iff_tiesBehind (habsent : AbsentUnaligned nodes) :
    Outranked nodes [] resourceTypes ↔ TiesBehind nodes := by
  constructor
  · intro h before a after hsplit ha
    have hcount := outranking_eq nodes habsent before after a hsplit ha
    have hle : before.countP (Requested nodes ·) ≤ outranking nodes a := by
      apply countP_le_of_counted
      intro front i back hbefore hi
      rw [hbefore, List.append_assoc, List.cons_append] at hsplit
      exact h front i (back ++ a :: after) hsplit (by simpa using hi) a
        (List.mem_append_right _ List.mem_cons_self) ha
    omega
  · intro h before i after hsplit hi a hafter ha
    obtain ⟨front, back, rfl⟩ := List.append_of_mem hafter
    have hsplit' : resourceTypes = (before ++ i :: front) ++ a :: back := by
      rw [hsplit, List.append_assoc, List.cons_append]
    have hcount := outranking_eq nodes habsent _ back a hsplit' ha
    have hties := h _ a back hsplit' ha
    have hi' : decide (Requested nodes i) = true := decide_eq_true hi
    rw [List.countP_append (p := (Requested nodes ·)), List.countP_cons (p := (Requested nodes ·)),
      hi', if_pos rfl] at hcount
    rw [List.nil_append]
    omega

theorem progress_start : Progress nodes (fun _ => false) [] [] where
  handled_iff := fun t _ => by simp
  requested := List.forall_mem_nil _
  length_eq := rfl
  decreasing := List.Pairwise.nil
  greatest := List.forall_mem_nil _

theorem inOrder_iff (s : HostBridgeState) (habsent : AbsentUnaligned s.nodes) :
    InOrder s.nodes ((phaseSelections s).map Prod.snd) ↔ TiesBehind s.nodes := by
  obtain ⟨hrequested, hdone⟩ :=
    selections_requested s.nodes (fun _ => false) [] resourceTypes [] rfl (progress_start s.nodes)
  rw [← outranked_iff_tiesBehind s.nodes habsent, ← hrequested]
  constructor
  · intro h p hp
    have hmem := h.requests.mem_iff.mp (List.mem_map_of_mem (f := Prod.snd) hp)
    rw [List.mem_filter, decide_eq_true_eq] at hmem
    exact hmem.2
  · intro h
    obtain ⟨handled', hprogress⟩ := hdone h
    refine ⟨?_, hprogress.decreasing.imp fun hlt => alignment_le_of_rank_lt s.nodes _ _ hlt⟩
    apply (hprogress.nodup.subperm ?_).perm_of_length_le
    · rw [← List.countP_eq_length_filter, hprogress.length_eq]
    · intro t ht
      rw [List.mem_filter, decide_eq_true_eq]
      exact hprogress.requested t ht

end Order

end FdtBusPkg
