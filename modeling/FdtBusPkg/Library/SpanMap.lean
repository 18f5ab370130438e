import FdtBusPkg.Library.Span

/-!
Maps from addresses to values that are kept as spans: a lookup finds the span
listed for an address, and the spans partition the addresses below `top`. An
edit of a region may cut spans at the ends of the region and join the pieces
that meet there, and nothing else.
-/

structure SpanMap (σ κ : Type*) (top : Nat) where
  value : σ → Nat → κ
  span : σ → Nat → Span
  mem_span (s : σ) (a : Nat) (h : a < top) : Span.Mem a (span s a)
  limit_le (s : σ) (a : Nat) (h : a < top) : (span s a).limit ≤ top
  uniform (s : σ) (a x : Nat) (h : Span.Mem x (span s a)) : value s x = value s a
  span_eq (s : σ) (a x : Nat) (h : Span.Mem x (span s a)) : span s x = span s a

namespace SpanMap

variable {σ κ : Type*} {top : Nat} (m : SpanMap σ κ top)

structure Edits (region : Span) (s t : σ) : Prop where
  outside (x : Nat) (h : ¬ Span.Mem x region) : m.value t x = m.value s x
  /-- Spans that do not even adjoin the region are kept. -/
  apart (x : Nat) (h : (m.span s x).limit < region.base ∨ region.limit < (m.span s x).base) :
    m.span t x = m.span s x
  /-- Spans are not cut inside the region, nor outside it. -/
  uncut (a x : Nat) (piece : Span) (h : Span.Within piece (m.span s a))
    (hside : Span.Within piece region ∨ Span.Disjoint piece region) (hx : Span.Mem x piece) :
    Span.Within piece (m.span t x)

theorem edits_refl (region : Span) (s : σ) : m.Edits region s s where
  outside _ _ := rfl
  apart _ _ := rfl
  uncut a x piece h _ hx := by
    rw [m.span_eq s a x (Span.mem_of_within h hx)]
    exact h

theorem edits_trans (region : Span) (s t u : σ) (hst : m.Edits region s t)
    (htu : m.Edits region t u) : m.Edits region s u where
  outside x h := (htu.outside x h).trans (hst.outside x h)
  apart x h := by
    have hkept := hst.apart x h
    rw [← hkept] at h
    exact (htu.apart x h).trans hkept
  uncut a x piece h hside hx := htu.uncut x x piece (hst.uncut a x piece h hside hx) hside hx

theorem limit_le_of_lt (s : σ) (a b : Nat) (ha : a < top) (hb : b < top) (hab : a ≤ b)
    (hne : ¬ Span.Mem b (m.span s a)) : (m.span s a).limit ≤ (m.span s b).base := by
  obtain ⟨hbase, hlimit⟩ := m.mem_span s a ha
  obtain ⟨hbase', hlimit'⟩ := m.mem_span s b hb
  have hafter : (m.span s a).limit ≤ b := by
    by_contra hlt
    exact hne ⟨Nat.le_trans hbase hab, Nat.lt_of_not_le hlt⟩
  by_contra hover
  have hlast : Span.Mem ((m.span s a).limit - 1) (m.span s a) := ⟨by omega, by omega⟩
  have hlast' : Span.Mem ((m.span s a).limit - 1) (m.span s b) := ⟨by omega, by omega⟩
  have heq := (m.span_eq s a _ hlast).symm.trans (m.span_eq s b _ hlast')
  exact hne (heq ▸ m.mem_span s b hb)

section Top

variable (htop : 0 < top) (s t : σ)

def topBase (s : σ) : Nat := (m.span s (top - 1)).base

include htop

theorem topSpan_limit : (m.span s (top - 1)).limit = top := by
  have hmem := (m.mem_span s (top - 1) (by omega)).2
  have hle := m.limit_le s (top - 1) (by omega)
  omega

theorem topBase_lt : m.topBase s < top := by
  have hmem : m.topBase s ≤ top - 1 := (m.mem_span s (top - 1) (by omega)).1
  omega

theorem limit_le_topBase (x : Nat) (hx : x < top) (hbelow : x < m.topBase s) :
    (m.span s x).limit ≤ m.topBase s := by
  refine m.limit_le_of_lt s x (top - 1) hx (by omega) (by omega) ?_
  intro hmem
  have hbase := (m.mem_span s x hx).1
  rw [topBase, m.span_eq s x _ hmem] at hbelow
  omega

theorem span_eq_top (x : Nat) (hx : x < top) (habove : m.topBase s ≤ x) :
    m.span s x = m.span s (top - 1) :=
  m.span_eq s _ x ⟨habove, by rw [m.topSpan_limit htop]; exact hx⟩

omit htop in
theorem Edits.topBase_eq {region : Span} {s t : σ} (h : m.Edits region s t)
    (hbelow : region.limit < m.topBase s) : m.topBase t = m.topBase s := by
  rw [topBase, h.apart (top - 1) (Or.inr hbelow), topBase]

theorem Edits.topBase_le {region : Span} {s t : σ} (h : m.Edits region s t)
    (hle : region.limit ≤ m.topBase s) : m.topBase t ≤ m.topBase s := by
  have hwhole := h.uncut (top - 1) (top - 1) (m.span s (top - 1)) (Span.within_refl _)
    (Or.inr (Or.inr hle)) (m.mem_span s _ (by omega))
  exact hwhole.1

/-- An edit of an upper part of the span at the top leaves it in one piece. -/
theorem Edits.topBase_le_base {a n : Nat} {s t : σ} (h : m.Edits ⟨a, n⟩ s t) (ha : a < top)
    (hn : a + n = top) (habove : m.topBase s ≤ a) : m.topBase t ≤ a := by
  have hwhole := h.uncut (top - 1) (top - 1) ⟨a, n⟩
    ⟨habove, by rw [m.topSpan_limit htop, Span.limit_mk]; omega⟩ (Or.inl (Span.within_refl _))
    ⟨by dsimp only; omega, by rw [Span.limit_mk]; omega⟩
  exact hwhole.1

end Top

theorem block_eq (size a x : Nat) (h : Span.Mem x ⟨a / size * size, size⟩) :
    x / size = a / size := by
  obtain ⟨hbase, hlimit⟩ := h
  refine Nat.div_eq_of_lt_le hbase ?_
  rw [Nat.succ_mul]
  exact hlimit

/-- The map that lists every address by itself. -/
def bytewise (κ : Type*) (top : Nat) : SpanMap (Nat → κ) κ top where
  value s := s
  span _ a := ⟨a, 1⟩
  mem_span _ a _ := ⟨Nat.le_refl a, Nat.lt_succ_self a⟩
  limit_le _ _ h := h
  uniform s a x h := by rw [Nat.le_antisymm (Nat.le_of_lt_succ h.2) h.1]
  span_eq _ a x h := by rw [Nat.le_antisymm (Nat.le_of_lt_succ h.2) h.1]

theorem bytewise_edits (κ : Type*) (top : Nat) (region : Span) (s t : Nat → κ)
    (h : ∀ x, ¬ Span.Mem x region → t x = s x) : (bytewise κ top).Edits region s t where
  outside := h
  apart _ _ := rfl
  uncut a x piece hpiece _ hx := by
    have hmem := Span.mem_of_within hpiece hx
    rw [Nat.le_antisymm (Nat.le_of_lt_succ hmem.2) hmem.1]
    exact hpiece

/-- The map that lists blocks of one size, each with a value of its own. -/
def blockwise {τ κ : Type*} (view : τ → κ) (size top : Nat) (hsize : 0 < size)
    (hdvd : size ∣ top) : SpanMap (Nat → τ) κ top where
  value s x := view (s (x / size))
  span _ a := ⟨a / size * size, size⟩
  mem_span _ a _ := ⟨Nat.div_mul_le_self a size, Nat.lt_div_mul_add hsize⟩
  limit_le _ a h := by
    obtain ⟨count, rfl⟩ := hdvd
    have hblock : a / size < count := Nat.div_lt_of_lt_mul h
    rw [Span.limit_mk, ← Nat.succ_mul, Nat.mul_comm size]
    exact Nat.mul_le_mul_right size hblock
  uniform s a x h := by rw [block_eq size a x h]
  span_eq _ a x h := by rw [block_eq size a x h]

theorem blockwise_edits {τ κ : Type*} (view : τ → κ) (size top : Nat) (hsize : 0 < size)
    (hdvd : size ∣ top) (region : Span) (s t : Nat → τ)
    (h : ∀ x, ¬ Span.Mem x region → view (t (x / size)) = view (s (x / size))) :
    (blockwise view size top hsize hdvd).Edits region s t where
  outside := h
  apart _ _ := rfl
  uncut a x piece hpiece _ hx := by
    change Span.Within piece ⟨x / size * size, size⟩
    rw [block_eq size a x (Span.mem_of_within hpiece hx)]
    exact hpiece

end SpanMap
