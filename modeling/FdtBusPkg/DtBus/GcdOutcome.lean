import FdtBusPkg.DtBus.Gcd

/-!
Updates of the GCD memory map that return success, whatever services may fail on the way. A
success means that the whole of the pages walked are updated, and that the descriptor seen
last is that of the last of them. Nothing is walked where the end of the range wraps around.
-/
namespace FdtBusPkg

/-- A memory map of the 64-bit address space behind services that can fail: each of them that
succeeds changes the region it is called for. Attributes set in the map may be forwarded to
the CPU. -/
structure GcdMemorySpace (σ : Type) where
  services : GcdServices σ
  map : SpanMap σ (GcdMemoryType × U64) (2 ^ 64)
  cpuAttributes : σ → Nat → U64
  forwards : U64 → Option U64
  descriptor (a : U64) (s : σ) (d : GcdDescriptor)
    (h : services.getMemorySpaceDescriptor a s = .ok d) :
    d.span = map.span s a.toNat ∧ (d.gcdMemoryType, d.attributes) = map.value s a.toNat
  remove (base length : U64) (s t : σ) (hpos : 0 < length.toNat)
    (hfits : base.toNat + length.toNat ≤ 2 ^ 64)
    (h : services.removeMemorySpace base length s = (.ok (), t)) :
    map.Edits ⟨base.toNat, length.toNat⟩ s t ∧ cpuAttributes t = cpuAttributes s ∧
      ∀ x, Span.Mem x ⟨base.toNat, length.toNat⟩ → (map.value t x).1 = .nonExistent
  add (type : GcdMemoryType) (base length capabilities : U64) (s t : σ)
    (hpos : 0 < length.toNat) (hfits : base.toNat + length.toNat ≤ 2 ^ 64)
    (h : services.addMemorySpace type base length capabilities s = (.ok (), t)) :
    map.Edits ⟨base.toNat, length.toNat⟩ s t ∧ cpuAttributes t = cpuAttributes s ∧
      ∀ x, Span.Mem x ⟨base.toNat, length.toNat⟩ → (map.value t x).1 = type
  setAttributes (base length attributes : U64) (s t : σ) (hpos : 0 < length.toNat)
    (hfits : base.toNat + length.toNat ≤ 2 ^ 64)
    (h : services.setMemorySpaceAttributes base length attributes s = (.ok (), t)) :
    map.Edits ⟨base.toNat, length.toNat⟩ s t ∧
      (∀ x, ¬ Span.Mem x ⟨base.toNat, length.toNat⟩ → cpuAttributes t x = cpuAttributes s x) ∧
        ∀ x, Span.Mem x ⟨base.toNat, length.toNat⟩ →
          map.value t x = ((map.value s x).1, attributes) ∧
            cpuAttributes t x = (forwards attributes).getD (cpuAttributes s x)
  /-- Not among the errors of these services. -/
  add_ne_notFound (type : GcdMemoryType) (base length capabilities : U64) (s : σ) :
    (services.addMemorySpace type base length capabilities s).1 ≠ .error .notFound
  setAttributes_ne_notFound (base length attributes : U64) (s : σ) :
    (services.setMemorySpaceAttributes base length attributes s).1 ≠ .error .notFound

/-- What the map says of an address, and the CPU attributes there. -/
abbrev PageState := (GcdMemoryType × U64) × U64

def GcdMemorySpace.observe {σ : Type} (g : GcdMemorySpace σ) (s : σ) (x : Nat) : PageState :=
  (g.map.value s x, g.cpuAttributes s x)

namespace GcdRequest

variable (q : GcdRequest)

def Walks (x : Nat) : Prop := q.alignedAddress.toNat ≤ x ∧ x < q.alignedEnd.toNat

instance (x : Nat) : Decidable (q.Walks x) := inferInstanceAs (Decidable (_ ∧ _))

/-- Attributes are set at an address of this type and these attributes. -/
def sets (c : GcdMemoryType × U64) : Bool := q.setsAttributes ⟨0, 0, c.1, c.2⟩

/-- What becomes of an address that is walked. -/
def convert (forwards : U64 → Option U64) (c : PageState) : PageState :=
  if q.sets c.1 then ((q.type, q.attributes), (forwards q.attributes).getD c.2) else c

end GcdRequest

section Region

variable {σ : Type} (g : GcdMemorySpace σ) (q : GcdRequest)

theorem callIf_succeeds {condition : Bool} {service : σ → EfiStatus × σ} {region : Span} {s t : σ}
    {effect : σ → Prop} (hcall : callIf condition service s = (.ok (), t))
    (hservice : ∀ t, service s = (.ok (), t) → g.map.Edits region s t ∧ effect t) :
    g.map.Edits region s t ∧ (condition = true → effect t) ∧ (condition = false → t = s) := by
  cases condition with
  | false =>
      cases hcall
      exact ⟨g.map.edits_refl region s, nofun, fun _ => rfl⟩
  | true =>
      obtain ⟨hedits, heffect⟩ := hservice t hcall
      exact ⟨hedits, fun _ => heffect, nofun⟩

theorem callIf_error {condition : Bool} {service : σ → EfiStatus × σ} {s t : σ} {e : EfiError}
    (hcall : callIf condition service s = (.error e, t)) :
    condition = true ∧ (service s).1 = .error e := by
  cases condition with
  | false => exact nomatch congrArg Prod.fst hcall
  | true => exact ⟨rfl, congrArg Prod.fst hcall⟩

theorem applyGcdRegion_succeeds (d : GcdDescriptor) (next length : U64) (s t : σ)
    (hpos : 0 < length.toNat) (hfits : next.toNat + length.toNat ≤ 2 ^ 64)
    (huniform : ∀ x, Span.Mem x ⟨next.toNat, length.toNat⟩ →
      g.map.value s x = (d.gcdMemoryType, d.attributes))
    (h : applyGcdRegion g.services q d next length s = (.ok (), t)) :
    g.map.Edits ⟨next.toNat, length.toNat⟩ s t ∧ ∀ x, g.observe t x =
      if Span.Mem x ⟨next.toNat, length.toNat⟩ then q.convert g.forwards (g.observe s x)
      else g.observe s x := by
  rw [applyGcdRegion] at h
  rcases hremove : callIf (q.overrides d) (g.services.removeMemorySpace next length) s with
    ⟨e | u, s1⟩
  · rw [hremove] at h
    cases congrArg Prod.fst h
  rw [hremove] at h
  dsimp only at h
  rcases hadd : callIf (q.adds d)
    (g.services.addMemorySpace q.type next length q.attributes) s1 with ⟨e | u, s2⟩
  · rw [hadd] at h
    cases congrArg Prod.fst h
  rw [hadd] at h
  dsimp only at h
  obtain ⟨hedits1, hcpu1, hsame1⟩ := callIf_succeeds g hremove fun t =>
    g.remove next length s t hpos hfits
  obtain ⟨hedits2, htype, hsame2⟩ := callIf_succeeds g hadd fun t =>
    g.add q.type next length q.attributes s1 t hpos hfits
  obtain ⟨hedits3, hattributes, hsame3⟩ := callIf_succeeds g h fun t =>
    g.setAttributes next length q.attributes s2 t hpos hfits
  have hedits := g.map.edits_trans _ s s1 t hedits1 (g.map.edits_trans _ s1 s2 t hedits2 hedits3)
  have hcpu : g.cpuAttributes s2 = g.cpuAttributes s := by
    cases hover : q.overrides d <;> cases hadds : q.adds d
    · rw [hsame2 hadds, hsame1 hover]
    · rw [(htype hadds).1, hsame1 hover]
    · rw [hsame2 hadds, (hcpu1 hover).1]
    · rw [(htype hadds).1, (hcpu1 hover).1]
  refine ⟨hedits, fun x => ?_⟩
  by_cases hx : Span.Mem x ⟨next.toNat, length.toNat⟩
  · have hvalue := value_of_calls q d g.map.value x (huniform x hx) hsame1
      (fun h => (htype h).2 x hx) hsame2 (fun h => ((hattributes h).2 x hx).1) hsame3
    rw [if_pos hx, GcdMemorySpace.observe, hvalue, GcdRequest.convert, GcdMemorySpace.observe,
      huniform x hx, GcdRequest.sets]
    change _ = if q.setsAttributes d then _ else _
    cases hsets : q.setsAttributes d with
    | true =>
        have hforwarded := ((hattributes hsets).2 x hx).2
        rw [hcpu] at hforwarded
        rw [hforwarded]
        rfl
    | false =>
        rw [hsame3 hsets, hcpu]
        rfl
  · rw [if_neg hx, GcdMemorySpace.observe, hedits.outside x hx, GcdMemorySpace.observe]
    cases hsets : q.setsAttributes d with
    | true => rw [(hattributes hsets).1 x hx, hcpu]
    | false => rw [hsame3 hsets, hcpu]

/-- No conflict is resolved where there is nothing to be done about it, and so nothing is
removed. -/
theorem applyGcdRegion_ne_notFound (d : GcdDescriptor) (next length : U64) (s : σ)
    (hnothing : q.onConflictDoNothing = true) :
    (applyGcdRegion g.services q d next length s).1 ≠ .error .notFound := by
  have hover : q.overrides d = false := by
    rw [GcdRequest.overrides, hnothing, Bool.not_true, Bool.and_false]
  have hkept : callIf false (g.services.removeMemorySpace next length) s = (.ok (), s) := rfl
  rw [applyGcdRegion, hover, hkept]
  dsimp only
  rcases hadd : callIf (q.adds d)
    (g.services.addMemorySpace q.type next length q.attributes) s with ⟨e | u, s2⟩
  · intro he
    obtain ⟨-, herror⟩ := callIf_error hadd
    exact g.add_ne_notFound q.type next length q.attributes s (herror.trans he)
  · intro he
    obtain ⟨-, herror⟩ := callIf_error (Prod.ext he rfl)
    exact g.setAttributes_ne_notFound next length q.attributes s2 herror

end Region

section Walk

variable {σ : Type} (g : GcdMemorySpace σ) (q : GcdRequest)

theorem piece_bounds (w : GcdWalk σ) (d : GcdDescriptor) (h : w.next < q.alignedEnd)
    (hget : g.services.getMemorySpaceDescriptor w.next w.state = .ok d) :
    w.next.toNat < q.pieceEnd d ∧ q.pieceEnd d ≤ 2 ^ 64 ∧
      (q.overlapRegionEnd d).toNat = q.pieceEnd d % 2 ^ 64 ∧
        (q.overlapRegionEnd d - w.next).toNat = q.pieceEnd d - w.next.toNat := by
  obtain ⟨hspan, -⟩ := g.descriptor w.next w.state d hget
  have hnext : w.next.toNat < q.alignedEnd.toNat := h
  have hlt := w.next.isLt
  obtain ⟨hbase, hlimit⟩ := g.map.mem_span w.state w.next.toNat hlt
  have hfits := g.map.limit_le w.state w.next.toNat hlt
  rw [← hspan] at hbase hlimit hfits
  have hend := q.toNat_overlapRegionEnd d hfits (by omega)
  have hpiece : w.next.toNat < q.pieceEnd d ∧ q.pieceEnd d ≤ 2 ^ 64 := by
    rw [GcdRequest.pieceEnd]
    split <;> omega
  have hnonzero : q.pieceEnd d = 2 ^ 64 → 0 < w.next.toNat := by
    intro htop
    have hlength := d.length.isLt
    have hsum : d.span.limit = d.span.base + d.length.toNat := rfl
    have hle : q.pieceEnd d ≤ d.span.limit := by
      rw [GcdRequest.pieceEnd]
      split <;> omega
    omega
  refine ⟨hpiece.1, hpiece.2, hend, ?_⟩
  rw [BitVec.toNat_sub, hend]
  omega

/-- An iteration that goes on has converted the rest of the descriptor, as far as it is in
the pages. -/
theorem applyGcdLoop_succeeds (w w' : GcdWalk σ)
    (h : applyGcdLoop g.services q w = .next w') :
    ∃ d, w.next < q.alignedEnd ∧
      g.services.getMemorySpaceDescriptor w.next w.state = .ok d ∧
      w'.next = q.overlapRegionEnd d ∧ w'.gcdDescriptor = some d ∧
      g.map.Edits ⟨w.next.toNat, q.pieceEnd d - w.next.toNat⟩ w.state w'.state ∧
      ∀ x, g.observe w'.state x =
        if w.next.toNat ≤ x ∧ x < q.pieceEnd d then q.convert g.forwards (g.observe w.state x)
        else g.observe w.state x := by
  rw [applyGcdLoop] at h
  by_cases hmore : w.next < q.alignedEnd
  · rw [if_pos hmore] at h
    cases hget : g.services.getMemorySpaceDescriptor w.next w.state with
    | error e =>
        rw [hget] at h
        cases h
    | ok d =>
        rw [hget] at h
        dsimp only at h
        rcases happly : applyGcdRegion g.services q d w.next (q.overlapRegionEnd d - w.next)
          w.state with ⟨e | u, t⟩
        · rw [happly] at h
          cases h
        rw [happly] at h
        cases h
        obtain ⟨hlow, hhigh, -, hlength⟩ := piece_bounds g q w d hmore hget
        obtain ⟨hspan, hvalue⟩ := g.descriptor w.next w.state d hget
        have hbase := (g.map.mem_span w.state w.next.toNat w.next.isLt).1
        have hle : q.pieceEnd d ≤ d.span.limit := by
          rw [GcdRequest.pieceEnd]
          split <;> omega
        have hmem (x : Nat) : Span.Mem x ⟨w.next.toNat, q.pieceEnd d - w.next.toNat⟩ ↔
            w.next.toNat ≤ x ∧ x < q.pieceEnd d := by
          rw [Span.Mem, Span.limit_mk]
          dsimp only
          omega
        obtain ⟨hedits, hobserve⟩ := applyGcdRegion_succeeds g q d w.next _ w.state t
          (by omega) (by omega) (fun x hx => by
            rw [hlength, hmem] at hx
            rw [hvalue]
            refine g.map.uniform w.state _ x ?_
            rw [← hspan] at hbase ⊢
            exact ⟨by omega, by omega⟩) happly
        rw [hlength] at hedits hobserve
        refine ⟨d, hmore, rfl, rfl, rfl, hedits, fun x => ?_⟩
        rw [hobserve x]
        simp only [hmem]
  · rw [if_neg hmore] at h
    cases h

theorem applyGcdLoop_done (w : GcdWalk σ) (r : Option GcdDescriptor) (t : σ)
    (h : applyGcdLoop g.services q w = .exit (.ok r, t)) :
    q.alignedEnd.toNat ≤ w.next.toNat ∧ r = w.gcdDescriptor ∧ t = w.state := by
  rw [applyGcdLoop] at h
  by_cases hmore : w.next < q.alignedEnd
  · rw [if_pos hmore] at h
    split at h
    · exact absurd h (by simp)
    · split at h <;> exact absurd h (by simp)
  · rw [if_neg hmore] at h
    cases h
    exact ⟨Nat.le_of_not_lt hmore, rfl, rfl⟩

/-- The pages below `next` are converted, and the descriptor seen last is that of the last of
them. -/
structure WalkedBelow (s : σ) (w : GcdWalk σ) : Prop where
  low : q.alignedAddress.toNat ≤ w.next.toNat
  high : w.next.toNat ≤ q.alignedEnd.toNat
  observe_eq (x : Nat) : g.observe w.state x =
    if q.alignedAddress.toNat ≤ x ∧ x < w.next.toNat then q.convert g.forwards (g.observe s x)
    else g.observe s x
  top : w.next.toNat < q.alignedEnd.toNat → q.alignedEnd.toNat ≤ g.map.topBase w.state
  seen : q.alignedAddress.toNat < w.next.toNat → ∃ d, w.gcdDescriptor = some d ∧
    (d.gcdMemoryType, d.attributes) = g.map.value s (w.next.toNat - 1)

theorem walkedBelow_next (s : σ) (w w' : GcdWalk σ) (hinv : WalkedBelow g q s w)
    (h : applyGcdLoop g.services q w = .next w') : WalkedBelow g q s w' := by
  obtain ⟨d, hmore, hget, hnext, hdescriptor, hedits, hobserve⟩ :=
    applyGcdLoop_succeeds g q w w' h
  obtain ⟨hless, -, hend, -⟩ := piece_bounds g q w d hmore hget
  obtain ⟨hspan, hvalue⟩ := g.descriptor w.next w.state d hget
  have hlow := hinv.low
  have hbelow : w.next.toNat < q.alignedEnd.toNat := hmore
  have htop := hinv.top hbelow
  have htopLt := g.map.topBase_lt (by decide) w.state
  have hlimit := g.map.limit_le_topBase (by decide) w.state w.next.toNat w.next.isLt (by omega)
  have hbase := (g.map.mem_span w.state w.next.toNat w.next.isLt).1
  rw [← hspan] at hlimit hbase
  have hpiece : q.pieceEnd d = min d.span.limit q.alignedEnd.toNat := by
    rw [GcdRequest.pieceEnd, if_neg (by omega)]
  have hto : w'.next.toNat = q.pieceEnd d := by
    rw [hnext, hend]
    omega
  have hbefore (x : Nat) (hx : w.next.toNat ≤ x) : g.observe w.state x = g.observe s x := by
    rw [hinv.observe_eq x, if_neg (by omega)]
  refine ⟨by omega, by omega, fun x => ?_, fun hmore' => ?_, fun _ => ⟨d, hdescriptor, ?_⟩⟩
  · rw [hobserve x, hto]
    by_cases hin : w.next.toNat ≤ x ∧ x < q.pieceEnd d
    · rw [if_pos hin, if_pos ⟨by omega, hin.2⟩, hbefore x hin.1]
    · rw [if_neg hin, hinv.observe_eq x]
      by_cases hdone : q.alignedAddress.toNat ≤ x ∧ x < w.next.toNat
      · rw [if_pos hdone, if_pos ⟨hdone.1, by omega⟩]
      · rw [if_neg hdone, if_neg (by omega)]
  · rw [hedits.topBase_eq g.map (by rw [Span.limit_mk]; omega)]
    exact htop
  · have hlast := hbefore (q.pieceEnd d - 1) (by omega)
    have hsame := g.map.uniform w.state w.next.toNat (q.pieceEnd d - 1)
      (by rw [← hspan]; exact ⟨by omega, by omega⟩)
    rw [hto, hvalue, ← hsame]
    exact congrArg Prod.fst hlast

/-- The walk has no way past the descriptor at the top, and starts over at zero. -/
def Restarts (w : GcdWalk σ) : Prop :=
  w.next.toNat < q.alignedEnd.toNat ∧ g.map.topBase w.state < q.alignedEnd.toNat

theorem restarts_next (w w' : GcdWalk σ) (hinv : Restarts g q w)
    (h : applyGcdLoop g.services q w = .next w') : Restarts g q w' := by
  obtain ⟨d, hmore, hget, hnext, -, hedits, -⟩ := applyGcdLoop_succeeds g q w w' h
  obtain ⟨hless, -, hend, -⟩ := piece_bounds g q w d hmore hget
  obtain ⟨hspan, -⟩ := g.descriptor w.next w.state d hget
  obtain ⟨hbelow, htop⟩ := hinv
  have hlt := w.next.isLt
  rw [Restarts, hnext, hend]
  by_cases habove : g.map.topBase w.state ≤ w.next.toNat
  · have hlimit : d.span.limit = 2 ^ 64 := by
      rw [hspan, g.map.span_eq_top (by decide) w.state _ hlt habove,
        g.map.topSpan_limit (by decide)]
    have hpiece : q.pieceEnd d = 2 ^ 64 := by
      rw [GcdRequest.pieceEnd, if_pos hlimit]
    rw [hpiece] at hedits ⊢
    have hle := hedits.topBase_le_base g.map (by decide) hlt (by omega) habove
    omega
  · have hlimit := g.map.limit_le_topBase (by decide) w.state w.next.toNat hlt (by omega)
    rw [← hspan] at hlimit
    have hpiece : q.pieceEnd d = d.span.limit := by
      have htopLt := g.map.topBase_lt (by decide) w.state
      rw [GcdRequest.pieceEnd, if_neg (by omega)]
      omega
    have hle := hedits.topBase_le g.map (by decide) (by rw [Span.limit_mk]; omega)
    omega

/-- What is known of an update that has succeeded: all the pages walked are converted, and the
descriptor returned is that of the last of them. -/
theorem applyGcd_succeeds (fuel : Nat) (s t : σ) (r : Option GcdDescriptor)
    (h : applyGcdTypeAndAttrs g.services q fuel s = some (.ok r, t)) :
    (∀ x, g.observe t x =
      if q.Walks x then q.convert g.forwards (g.observe s x) else g.observe s x) ∧
    (q.alignedEnd.toNat ≤ q.alignedAddress.toNat → r = none) ∧
    (q.alignedAddress.toNat < q.alignedEnd.toNat → ∃ d, r = some d ∧
      (d.gcdMemoryType, d.attributes) = g.map.value s (q.alignedEnd.toNat - 1)) := by
  have hrun (inv : GcdWalk σ → Prop) (hstep : ∀ w w', inv w →
      applyGcdLoop g.services q w = .next w' → inv w') (hinit : inv ⟨q.alignedAddress, none, s⟩) :=
    Loop.exit_of_run (applyGcdLoop g.services q) inv hstep fuel _ _ hinit h
  by_cases hwalk : q.alignedAddress.toNat < q.alignedEnd.toNat
  · by_cases htop : q.alignedEnd.toNat ≤ g.map.topBase s
    · obtain ⟨w, hinv, hexit⟩ := hrun (WalkedBelow g q s)
        (fun w w' => walkedBelow_next g q s w w')
        ⟨Nat.le_refl _, hwalk.le, fun x => by rw [if_neg (by dsimp only; omega)], fun _ => htop,
          fun hlt => absurd hlt (Nat.lt_irrefl _)⟩
      obtain ⟨hdone, rfl, rfl⟩ := applyGcdLoop_done g q w r t hexit
      have hend : w.next.toNat = q.alignedEnd.toNat := Nat.le_antisymm hinv.high hdone
      refine ⟨fun x => ?_, fun hle => absurd hwalk (Nat.not_lt.mpr hle), fun _ => ?_⟩
      · rw [hinv.observe_eq x, hend]
        rfl
      · rw [← hend]
        exact hinv.seen (by omega)
    · obtain ⟨w, hinv, hexit⟩ := hrun (Restarts g q) (restarts_next g q)
        ⟨hwalk, Nat.lt_of_not_le htop⟩
      obtain ⟨hdone, -, -⟩ := applyGcdLoop_done g q w r t hexit
      exact absurd hinv.1 (Nat.not_lt.mpr hdone)
  · have hfirst : applyGcdLoop g.services q ⟨q.alignedAddress, none, s⟩ = .exit (.ok none, s) :=
      if_neg hwalk
    cases fuel with
    | zero => exact nomatch h
    | succ fuel =>
        rw [applyGcdTypeAndAttrs, Loop.run_exit _ _ _ _ hfirst] at h
        cases h
        refine ⟨fun x => ?_, fun _ => rfl, fun hlt => absurd hlt hwalk⟩
        rw [if_neg]
        intro hx
        exact hwalk (Nat.lt_of_le_of_lt hx.1 hx.2)

theorem applyGcd_ne_notFound (fuel : Nat) (s t : σ) (e : EfiError)
    (hnothing : q.onConflictDoNothing = true)
    (h : applyGcdTypeAndAttrs g.services q fuel s = some (.error e, t)) : e ≠ .notFound := by
  obtain ⟨w, -, hexit⟩ := Loop.exit_of_run (applyGcdLoop g.services q) (fun _ => True)
    (fun _ _ _ _ => trivial) fuel _ _ trivial h
  rw [applyGcdLoop] at hexit
  by_cases hmore : w.next < q.alignedEnd
  · rw [if_pos hmore] at hexit
    cases hget : g.services.getMemorySpaceDescriptor w.next w.state with
    | error e' =>
        simp only [hget, Loop.Step.exit.injEq, Prod.mk.injEq, Except.error.injEq] at hexit
        rw [← hexit.1]
        split
        · decide
        · assumption
    | ok d =>
        rw [hget] at hexit
        dsimp only at hexit
        rcases happly : applyGcdRegion g.services q d w.next (q.overlapRegionEnd d - w.next)
          w.state with ⟨e' | u, t'⟩
        · rw [happly] at hexit
          cases hexit
          intro he
          exact applyGcdRegion_ne_notFound g q d w.next _ w.state hnothing
            ((congrArg Prod.fst happly).trans (congrArg Except.error he))
        · rw [happly] at hexit
          cases hexit
  · rw [if_neg hmore] at hexit
    exact absurd hexit (by simp)

end Walk

end FdtBusPkg
