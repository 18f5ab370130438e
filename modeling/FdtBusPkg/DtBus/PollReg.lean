import FdtBusPkg.DtBus.Ticks
import FdtBusPkg.DtBus.RegisterWindow
import FdtBusPkg.Library.Align
import FdtBusPkg.Library.Loop

/-!
Polling a register. `PollReg` reads into the caller's 64-bit result, of which a
narrower read replaces the low bytes only, and counts the time with a free-running
counter that rolls over between two values.
-/
namespace FdtBusPkg

/-- What `GetPerformanceCounterProperties` returns. -/
structure PerformanceCounter where
  frequency : U64
  startTick : U64
  endTick : U64
  deriving DecidableEq, Repr

/-- The number of the counter's values, from one rollover to the next. -/
def PerformanceCounter.period (c : PerformanceCounter) : Nat :=
  (if c.startTick < c.endTick then c.endTick.toNat - c.startTick.toNat
    else c.startTick.toNat - c.endTick.toNat) + 1

/-- `GetElapsedTick`, from the previous count to the current one. -/
def getElapsedTick (c : PerformanceCounter) (previousTick currentTick : U64) : U64 :=
  if c.startTick < c.endTick then currentTick - previousTick else previousTick - currentTick

/-- What a poll finds: the counter with its successive counts, and what the successive
reads of a forwarded access return. -/
structure PollWorld where
  counter : PerformanceCounter
  getPerformanceCounter : Nat → U64
  read : RegAccess → Nat → EfiResult U64

/-- The bytes of a 64-bit buffer that an element of the width takes. -/
def widthMask (width : DtIoWidth) : U64 := Align.lowMask 64 (8 * width.bytes)

/-- A buffer after an element has been read into it. -/
def storeResult (width : DtIoWidth) (result content : U64) : U64 :=
  (result &&& ~~~ widthMask width) ||| (content &&& widthMask width)

/-- `EFI_TIMER_PERIOD_SECONDS (1)`. -/
def EFI_TIMER_PERIOD_SECOND : U32 := 10000000

/-- `NumberOfTicks`. -/
def pollNumberOfTicks (frequency delay : U64) : U64 :=
  let ticks := multThenDivU64x64x32 frequency delay EFI_TIMER_PERIOD_SECOND
  if ticks.2 ≥ EFI_TIMER_PERIOD_SECOND / 2 then ticks.1 + 1 else ticks.1

/-- How a poll ends: its status, the contents of `*Result` and the reads it has made. -/
structure PollRun where
  status : EfiStatus
  result : U64
  reads : Nat
  deriving DecidableEq

/-- The variables of the loop; `iteration` numbers its executions. -/
structure PollState where
  iteration : Nat
  elapsedTick : U64
  currentTick : U64
  result : U64
  deriving DecidableEq

section Poll

variable (world : PollWorld) (this : Option DtDevice) (width : DtIoWidth) (reg : Option DtReg)
  (offset : DtSize) (mask value delay : U64)

/-- The read with the given number, `DtIoReadReg (This, Width, Reg, Offset, 1, Result)`. -/
def pollRead (n : Nat) : EfiResult U64 :=
  match dtIoReadReg this width reg offset 1 true with
  | .error e => .error e
  | .ok access => world.read access n

def pollRegLoop (numberOfTicks : U64) (s : PollState) : Loop.Step PollState PollRun :=
  if s.elapsedTick ≤ numberOfTicks then
    match pollRead world this width reg offset (s.iteration + 1) with
    | .error e => .exit ⟨.error e, s.result, s.iteration + 2⟩
    | .ok content =>
      let result := storeResult width s.result content
      if result &&& mask = value then
        .exit ⟨.ok (), result, s.iteration + 2⟩
      else
        let currentTick := world.getPerformanceCounter (s.iteration + 1)
        .next ⟨s.iteration + 1,
          s.elapsedTick + getElapsedTick world.counter s.currentTick currentTick, currentTick,
          result⟩
  else
    .exit ⟨.error .timeout, s.result, s.iteration + 1⟩

/-- `DtIoPollReg` with at most `fuel` iterations of its loop. -/
def dtIoPollReg (result : Option U64) (fuel : Nat) : Option PollRun :=
  if this.isNone || result.isNone || width.index ≥ DtIoWidth.maximum.index then
    some ⟨.error .invalidParameter, result.getD 0, 0⟩
  else
    match pollRead world this width reg offset 0 with
    | .error e => some ⟨.error e, result.getD 0, 1⟩
    | .ok content =>
      let result := storeResult width (result.getD 0) content
      if delay = 0 then
        some ⟨.ok (), result, 1⟩
      else
        Loop.run (pollRegLoop world this width reg offset mask value
            (pollNumberOfTicks world.counter.frequency delay)) fuel
          ⟨0, 0, world.getPerformanceCounter 0, result⟩

end Poll

/-- A counter of exact time: the ticks at which its samples are taken, at least one in
each period. -/
structure PerformanceTimer extends PerformanceCounter where
  time : Nat → Nat
  time_le (n : Nat) : time n ≤ time (n + 1)
  time_lt (n : Nat) : time (n + 1) < time n + toPerformanceCounter.period

theorem PerformanceCounter.period_le (c : PerformanceCounter) : c.period ≤ 2 ^ 64 := by
  have hstart := c.startTick.isLt
  have hend := c.endTick.isLt
  rw [period]
  split <;> omega

namespace PerformanceTimer

variable (t : PerformanceTimer)

/-- The ticks from the last rollover to a sample. -/
def position (n : Nat) : Nat := t.time n % t.period

def count (n : Nat) : U64 :=
  if t.startTick < t.endTick then t.startTick + BitVec.ofNat 64 (t.position n)
  else t.startTick - BitVec.ofNat 64 (t.position n)

/-- The exact time from the first sample to another. -/
def elapsed (n : Nat) : Nat := t.time n - t.time 0

/-- The advance of the count from the first sample to another. -/
def advance (n : Nat) : U64 := getElapsedTick t.toPerformanceCounter (t.count 0) (t.count n)

theorem advance_eq (n : Nat) :
    t.advance n = BitVec.ofNat 64 (t.position n) - BitVec.ofNat 64 (t.position 0) := by
  rw [advance, getElapsedTick, count, count]
  split <;> bv_omega

theorem advance_zero : t.advance 0 = 0 := by
  rw [advance_eq, BitVec.sub_self]
  rfl

theorem advance_succ (n : Nat) :
    t.advance n + getElapsedTick t.toPerformanceCounter (t.count n) (t.count (n + 1)) =
      t.advance (n + 1) := by
  rw [advance_eq, advance_eq, getElapsedTick, count, count]
  split <;> bv_omega

end PerformanceTimer

/-- A poll of a register with a plain width and a delay. -/
structure RegisterPoll where
  timer : PerformanceTimer
  read : RegAccess → Nat → EfiResult U64
  this : Option DtDevice
  width : DtIoWidth
  reg : Option DtReg
  offset : DtSize
  mask : U64
  value : U64
  delay : U64
  result : U64
  plain : width.index ≤ DtIoWidth.uint64.index
  delay_ne : delay ≠ 0

namespace RegisterPoll

variable (p : RegisterPoll)

def world : PollWorld := ⟨p.timer.toPerformanceCounter, p.timer.count, p.read⟩

def run (fuel : Nat) : Option PollRun :=
  dtIoPollReg p.world p.this p.width p.reg p.offset p.mask p.value p.delay (some p.result) fuel

/-- The value that a read returns, extended to 64 bits. -/
def contents (n : Nat) : EfiResult U64 :=
  (pollRead p.world p.this p.width p.reg p.offset n).map (· &&& widthMask p.width)

def delayTicks : Nat := (p.timer.frequency.toNat * p.delay.toNat + 5000000) / 10000000

/-- The poll reports what it read, times out late enough, and ends in time. -/
structure Reports : Prop where
  success_iff (fuel : Nat) (run : PollRun) (h : p.run fuel = some run) :
    run.status = .ok () ↔ ∃ v, p.contents (run.reads - 1) = .ok v ∧ v &&& p.mask = p.value
  result_eq (fuel : Nat) (run : PollRun) (h : p.run fuel = some run)
    (hok : run.status = .ok ()) : p.contents (run.reads - 1) = .ok run.result
  late (fuel : Nat) (run : PollRun) (h : p.run fuel = some run)
    (htimeout : run.status = .error .timeout) (v : U64)
    (hread : p.contents (run.reads - 1) = .ok v) :
    p.timer.frequency.toNat * p.delay.toNat < p.timer.elapsed (run.reads - 1) * 10000000
  ends (n : Nat) (hover : p.delayTicks < p.timer.elapsed n) :
    ∃ run, p.run (n + 1) = some run ∧ run.reads ≤ n + 1

def numberOfTicks : U64 := pollNumberOfTicks p.timer.frequency p.delay

/-- The bytes of `*Result` that the reads do not replace. -/
def stale : U64 := p.result &&& ~~~ widthMask p.width

/-- The poll is still waiting at a sample: the values read so far do not meet the criteria,
together with the stale bytes, and the count has not advanced by the number of ticks. -/
def Waits (n : Nat) : Prop :=
  (∃ v, p.contents 0 = .ok v) ∧ ∀ k < n, p.timer.advance k ≤ p.numberOfTicks ∧
    ∃ v, p.contents (k + 1) = .ok v ∧ (p.stale ||| v) &&& p.mask ≠ p.value

/-- The advance of the count tells whether the delay is over. -/
def TimerRight (n : Nat) : Prop :=
  (p.timer.advance n ≤ p.numberOfTicks → p.timer.elapsed n ≤ p.delayTicks) ∧
    (p.timer.elapsed n * 10000000 ≤ p.timer.frequency.toNat * p.delay.toNat →
      p.timer.advance n ≤ p.numberOfTicks)

/-- There are no stale bytes; or the next value does not meet the criteria together with
them, or at the end of the delay the last one does not without them. -/
def StaleHarmless (n : Nat) : Prop :=
  p.stale = 0 ∨
    if p.timer.advance n ≤ p.numberOfTicks then
      ∀ v, p.contents (n + 1) = .ok v → (p.stale ||| v) &&& p.mask ≠ p.value
    else
      ∀ v, p.contents n = .ok v → v &&& p.mask ≠ p.value

section Result

variable (width : DtIoWidth) (result content : U64)

theorem storeResult_storeResult (content' : U64) :
    storeResult width (storeResult width result content) content' =
      storeResult width result content' := by
  rw [storeResult, storeResult, storeResult]
  ext i
  simp only [BitVec.getElem_or, BitVec.getElem_and, BitVec.getElem_not]
  cases (widthMask width)[i] <;> simp

theorem stale_eq_zero (h : storeResult width result content = content &&& widthMask width) :
    result &&& ~~~ widthMask width = 0 := by
  have hbits : storeResult width result content &&& ~~~ widthMask width =
      result &&& ~~~ widthMask width := by
    rw [storeResult]
    ext i
    simp only [BitVec.getElem_or, BitVec.getElem_and, BitVec.getElem_not]
    cases (widthMask width)[i] <;> simp
  rw [← hbits, h]
  ext i
  simp only [BitVec.getElem_and, BitVec.getElem_not]
  cases (widthMask width)[i] <;> simp

end Result

def stateAt (n : Nat) : PollState where
  iteration := n
  elapsedTick := p.timer.advance n
  currentTick := p.timer.count n
  result := match p.contents n with
    | .ok v => p.stale ||| v
    | .error _ => p.result

def body : PollState → Loop.Step PollState PollRun :=
  pollRegLoop p.world p.this p.width p.reg p.offset p.mask p.value p.numberOfTicks

theorem contents_eq (n : Nat) (content : U64)
    (h : pollRead p.world p.this p.width p.reg p.offset n = .ok content) :
    p.contents n = .ok (content &&& widthMask p.width) := by
  rw [contents, h]
  rfl

theorem masked (n : Nat) (v : U64) (h : p.contents n = .ok v) : v &&& widthMask p.width = v := by
  cases hread : pollRead p.world p.this p.width p.reg p.offset n with
  | error e =>
      rw [contents, hread] at h
      exact nomatch h
  | ok content =>
      rw [p.contents_eq n content hread] at h
      rw [← Except.ok.inj h, BitVec.and_assoc, BitVec.and_self]

theorem storeResult_stateAt (n : Nat) (content : U64) :
    storeResult p.width (p.stateAt n).result content =
      p.stale ||| (content &&& widthMask p.width) := by
  have hresult : storeResult p.width p.result content =
      p.stale ||| (content &&& widthMask p.width) := rfl
  rw [stateAt]
  dsimp only
  cases hread : pollRead p.world p.this p.width p.reg p.offset n with
  | error e =>
      have hcontents : p.contents n = .error e := by
        rw [contents, hread]
        rfl
      rw [hcontents, hresult]
  | ok old =>
      rw [p.contents_eq n old hread, ← hresult]
      exact storeResult_storeResult p.width p.result old content

theorem body_stateAt (n : Nat) :
    p.body (p.stateAt n) =
      if p.timer.advance n ≤ p.numberOfTicks then
        match p.contents (n + 1) with
        | .error e => .exit ⟨.error e, (p.stateAt n).result, n + 2⟩
        | .ok v =>
          if (p.stale ||| v) &&& p.mask = p.value then .exit ⟨.ok (), p.stale ||| v, n + 2⟩
          else .next (p.stateAt (n + 1))
      else
        .exit ⟨.error .timeout, (p.stateAt n).result, n + 1⟩ := by
  rw [body, pollRegLoop]
  refine if_congr Iff.rfl ?_ rfl
  cases hread : pollRead p.world p.this p.width p.reg p.offset (n + 1) with
  | error e =>
      have hcontents : p.contents (n + 1) = .error e := by
        rw [contents, hread]
        rfl
      simp only [hcontents, stateAt, hread]
  | ok content =>
      have hcontents := p.contents_eq (n + 1) content hread
      have hstore := p.storeResult_stateAt n content
      have hiteration : (p.stateAt n).iteration = n := rfl
      rw [hiteration, hread, hcontents]
      dsimp only
      rw [hstore]
      refine if_congr Iff.rfl rfl ?_
      rw [stateAt, stateAt, hcontents]
      dsimp only
      rw [← p.timer.advance_succ n]
      rfl

theorem run_eq (fuel : Nat) :
    (∃ reads ≤ 1, ∃ e, p.contents 0 = .error e ∧ p.run fuel = some ⟨.error e, p.result, reads⟩) ∨
      ∃ v, p.contents 0 = .ok v ∧ p.run fuel = Loop.run p.body fuel (p.stateAt 0) := by
  have hwidth : ¬ p.width.index ≥ DtIoWidth.maximum.index :=
    Nat.not_le.mpr (Nat.lt_of_le_of_lt p.plain (by decide))
  rw [run, dtIoPollReg, decide_eq_false hwidth]
  cases hthis : p.this with
  | none =>
      have hread : pollRead p.world p.this p.width p.reg p.offset 0 =
          .error .invalidParameter := by
        rw [hthis, pollRead, dtIoReadReg, dtIoAccessReg]
        intro device reg hdevice
        cases hdevice
      refine .inl ⟨0, Nat.zero_le 1, .invalidParameter, ?_, rfl⟩
      rw [contents, hread]
      rfl
  | some device =>
      rw [← hthis]
      cases hread : pollRead p.world p.this p.width p.reg p.offset 0 with
      | error e =>
          refine .inl ⟨1, Nat.le_refl 1, e, ?_, ?_⟩
          · rw [contents, hread]
            rfl
          · rw [hthis]
            rfl
      | ok content =>
          have hcontents := p.contents_eq 0 content hread
          refine .inr ⟨_, hcontents, ?_⟩
          rw [stateAt, hcontents, p.timer.advance_zero, body, hthis]
          exact if_neg p.delay_ne

theorem run_of_error (e : EfiError) (h : p.contents 0 = .error e) (fuel : Nat) :
    ∃ reads ≤ 1, p.run fuel = some ⟨.error e, p.result, reads⟩ := by
  rcases p.run_eq fuel with ⟨reads, hreads, e', he, hrun⟩ | ⟨v, hv, -⟩
  · rw [h] at he
    rw [← Except.error.inj he] at hrun
    exact ⟨reads, hreads, hrun⟩
  · rw [h] at hv
    exact nomatch hv

theorem run_of_ok (v : U64) (h : p.contents 0 = .ok v) (fuel : Nat) :
    p.run fuel = Loop.run p.body fuel (p.stateAt 0) := by
  rcases p.run_eq fuel with ⟨reads, hreads, e', he, hrun⟩ | ⟨-, -, hrun⟩
  · rw [h] at he
    exact nomatch he
  · exact hrun

section Waiting

variable {p}

theorem Waits.contents {n : Nat} (h : p.Waits n) : ∃ v, p.contents n = .ok v := by
  cases n with
  | zero => exact h.1
  | succ n =>
      obtain ⟨-, v, hv, -⟩ := h.2 n (Nat.lt_succ_self n)
      exact ⟨v, hv⟩

/-- A value that was read while waiting does not meet the criteria together with the
stale bytes. -/
theorem Waits.not_met {n : Nat} (h : p.Waits (n + 1)) (v : U64)
    (hv : p.contents (n + 1) = .ok v) : (p.stale ||| v) &&& p.mask ≠ p.value := by
  obtain ⟨-, v', hv', hnot⟩ := h.2 n (Nat.lt_succ_self n)
  rw [hv] at hv'
  rw [Except.ok.inj hv']
  exact hnot

theorem body_next_iff (n : Nat) (t : PollState) :
    p.body (p.stateAt n) = .next t ↔
      t = p.stateAt (n + 1) ∧ p.timer.advance n ≤ p.numberOfTicks ∧
        ∃ v, p.contents (n + 1) = .ok v ∧ (p.stale ||| v) &&& p.mask ≠ p.value := by
  rw [body_stateAt]
  split
  · next htime =>
    cases hread : p.contents (n + 1) with
    | error e => simp
    | ok v =>
        dsimp only
        split
        · next hmet => simp [hmet]
        · next hmet => simp [hmet, htime, eq_comm (a := t)]
  · next htime => simp [htime]

theorem body_exit_iff (n : Nat) (run : PollRun) :
    p.body (p.stateAt n) = .exit run ↔
      (¬ p.timer.advance n ≤ p.numberOfTicks ∧
          run = ⟨.error .timeout, (p.stateAt n).result, n + 1⟩) ∨
        p.timer.advance n ≤ p.numberOfTicks ∧
          ((∃ e, p.contents (n + 1) = .error e ∧
              run = ⟨.error e, (p.stateAt n).result, n + 2⟩) ∨
            ∃ v, p.contents (n + 1) = .ok v ∧ (p.stale ||| v) &&& p.mask = p.value ∧
              run = ⟨.ok (), p.stale ||| v, n + 2⟩) := by
  rw [body_stateAt]
  split
  · next htime =>
    cases hread : p.contents (n + 1) with
    | error e => simp [htime, eq_comm]
    | ok v =>
        dsimp only
        split
        · next hmet => simp [hmet, htime, eq_comm]
        · next hmet => simp [hmet, htime]
  · next htime => simp [htime, eq_comm]

theorem waits_iff (n : Nat) :
    p.Waits n ↔ (∃ v, p.contents 0 = .ok v) ∧
      ∀ k < n, p.body (p.stateAt k) = .next (p.stateAt (k + 1)) := by
  refine and_congr_right fun _ => forall_congr' fun k => imp_congr_right fun _ => ?_
  rw [body_next_iff]
  exact (and_iff_right rfl).symm

theorem Waits.run {n : Nat} (h : p.Waits n) (fuel : Nat) :
    p.run (n + fuel) = Loop.run p.body fuel (p.stateAt n) := by
  obtain ⟨⟨v, hv⟩, hnext⟩ := (waits_iff n).mp h
  rw [p.run_of_ok v hv]
  exact Loop.run_add p.body p.stateAt n fuel hnext

theorem Waits.run_exit {n : Nat} (h : p.Waits n) (run : PollRun)
    (hexit : p.body (p.stateAt n) = .exit run) : p.run (n + 1) = some run := by
  rw [h.run 1]
  exact Loop.run_exit p.body 0 _ run hexit

/-- A poll that returns after its first read has waited until it ends. -/
theorem exists_exit (v : U64) (hv : p.contents 0 = .ok v) (fuel : Nat) (run : PollRun)
    (h : p.run fuel = some run) :
    ∃ n, p.Waits n ∧ p.body (p.stateAt n) = .exit run := by
  rw [p.run_of_ok v hv] at h
  obtain ⟨n, -, hnext, hexit⟩ := Loop.exists_exit_of_run p.body p.stateAt
    (fun k t hk => ((body_next_iff k t).mp hk).1) fuel run h
  exact ⟨n, (waits_iff n).mpr ⟨⟨v, hv⟩, hnext⟩, hexit⟩

theorem exists_exit_of_not_waits (v : U64) (hv : p.contents 0 = .ok v) (n : Nat)
    (h : ¬ p.Waits n) : ∃ k < n, p.Waits k ∧ ∃ run, p.body (p.stateAt k) = .exit run := by
  induction n with
  | zero => exact absurd ⟨⟨v, hv⟩, fun k hk => absurd hk (Nat.not_lt_zero k)⟩ h
  | succ n ih =>
      by_cases hbefore : p.Waits n
      · refine ⟨n, Nat.lt_succ_self n, hbefore, ?_⟩
        cases hbody : p.body (p.stateAt n) with
        | exit run => exact ⟨run, rfl⟩
        | next t =>
            refine absurd ((waits_iff (n + 1)).mpr ⟨⟨v, hv⟩, fun k hk => ?_⟩) h
            rcases Nat.lt_succ_iff_lt_or_eq.mp hk with hk | rfl
            · exact ((waits_iff n).mp hbefore).2 k hk
            · rw [hbody, ((body_next_iff k t).mp hbody).1]
      · obtain ⟨k, hk, hrest⟩ := ih hbefore
        exact ⟨k, Nat.lt_succ_of_lt hk, hrest⟩

end Waiting

section Reports

variable {p}

/-- A poll that has waited up to the end of its delay has read as often as it has sampled. -/
theorem Waits.timerRight {n : Nat} (h : p.Waits n) (hreports : p.Reports) : p.TimerRight n := by
  obtain ⟨v, hv⟩ := h.contents
  constructor
  · intro htime
    by_contra hover
    obtain ⟨run, hrun, hreads⟩ := hreports.ends n (Nat.lt_of_not_le hover)
    rw [h.run 1] at hrun
    cases hbody : p.body (p.stateAt n) with
    | next t =>
        rw [Loop.run_next _ _ _ _ hbody] at hrun
        exact nomatch hrun
    | exit run' =>
        rw [Loop.run_exit _ _ _ _ hbody] at hrun
        rw [← Option.some.inj hrun] at hreads
        rcases (body_exit_iff n run').mp hbody with
          ⟨hnot, -⟩ | ⟨-, ⟨e, -, rfl⟩ | ⟨v', -, -, rfl⟩⟩
        · exact hnot htime
        · dsimp only at hreads
          omega
        · dsimp only at hreads
          omega
  · intro hearly
    by_contra htime
    have hrun := h.run_exit _ ((body_exit_iff n _).mpr (.inl ⟨htime, rfl⟩))
    have hlate := hreports.late _ _ hrun rfl v hv
    rw [Nat.add_sub_cancel] at hlate
    omega

theorem Waits.staleHarmless {n : Nat} (h : p.Waits n) (hreports : p.Reports) :
    p.StaleHarmless n := by
  by_cases hstale : p.stale = 0
  · exact .inl hstale
  · refine .inr ?_
    split
    · next htime =>
      intro v hv hmet
      have hrun := h.run_exit _ ((body_exit_iff n _).mpr (.inr ⟨htime, .inr ⟨v, hv, hmet, rfl⟩⟩))
      have hresult := hreports.result_eq _ _ hrun rfl
      rw [show n + 2 - 1 = n + 1 from rfl, hv] at hresult
      refine hstale (stale_eq_zero p.width p.result v ?_)
      rw [p.masked (n + 1) v hv]
      exact (congrArg (p.stale ||| ·) (p.masked (n + 1) v hv)).trans (Except.ok.inj hresult).symm
    · next htime =>
      intro v hv hmet
      have hrun := h.run_exit _ ((body_exit_iff n _).mpr (.inl ⟨htime, rfl⟩))
      have hok := (hreports.success_iff _ _ hrun).mpr ⟨v, hv, hmet⟩
      exact nomatch hok

theorem stale_or (hzero : p.stale = 0) (v : U64) : p.stale ||| v = v := by
  rw [hzero]
  exact BitVec.zero_or

/-- What a poll that ends at a sample reports. -/
structure EndsRight (p : RegisterPoll) (run : PollRun) : Prop where
  success_iff : run.status = .ok () ↔
    ∃ v, p.contents (run.reads - 1) = .ok v ∧ v &&& p.mask = p.value
  result_eq (hok : run.status = .ok ()) : p.contents (run.reads - 1) = .ok run.result
  late (htimeout : run.status = .error .timeout) (v : U64)
    (hread : p.contents (run.reads - 1) = .ok v) :
    p.timer.frequency.toNat * p.delay.toNat < p.timer.elapsed (run.reads - 1) * 10000000

theorem endsRight_of_error (e : EfiError) (run : PollRun) (hstatus : run.status = .error e)
    (hread : p.contents (run.reads - 1) = .error e) : EndsRight p run where
  success_iff := by simp [hstatus, hread]
  result_eq hok := nomatch hok.symm.trans hstatus
  late _ v hv := nomatch hv.symm.trans hread

theorem Waits.endsRight {n : Nat} (h : p.Waits n) (htimer : p.TimerRight n)
    (hstale : p.StaleHarmless n) (run : PollRun) (hexit : p.body (p.stateAt n) = .exit run) :
    EndsRight p run := by
  obtain ⟨hnot, rfl⟩ | ⟨htime, ⟨e, he, rfl⟩ | ⟨v, hv, hmet, rfl⟩⟩ := (body_exit_iff n run).mp hexit
  · obtain ⟨v, hv⟩ := h.contents
    refine ⟨⟨nofun, ?_⟩, nofun, fun _ _ _ => ?_⟩
    · rintro ⟨v', hv', hmet⟩
      rw [Nat.add_sub_cancel] at hv'
      rcases hstale with hzero | hharmless
      · cases n with
        | zero =>
            rw [p.timer.advance_zero] at hnot
            exact absurd (Nat.zero_le _) hnot
        | succ n =>
            refine absurd ?_ (h.not_met v' hv')
            rw [stale_or hzero]
            exact hmet
      · rw [if_neg hnot] at hharmless
        exact absurd hmet (hharmless v' hv')
    · rw [Nat.add_sub_cancel]
      exact Nat.lt_of_not_le fun hearly => hnot (htimer.2 hearly)
  · exact endsRight_of_error e _ rfl he
  · have hzero : p.stale = 0 := by
      rcases hstale with hzero | hharmless
      · exact hzero
      · rw [if_pos htime] at hharmless
        exact absurd hmet (hharmless v hv)
    rw [stale_or hzero] at hmet ⊢
    exact ⟨iff_of_true rfl ⟨v, hv, hmet⟩, fun _ => hv, nofun⟩

/-- What the runs of a poll report when the count is right and stale bytes do no harm. -/
theorem endsRight_of_harmless (h : ∀ n, p.Waits n → p.TimerRight n ∧ p.StaleHarmless n)
    (fuel : Nat) (run : PollRun) (hrun : p.run fuel = some run) : EndsRight p run := by
  cases hfirst : p.contents 0 with
  | error e =>
      obtain ⟨reads, hreads, heq⟩ := p.run_of_error e hfirst fuel
      rw [hrun] at heq
      refine endsRight_of_error e run (by rw [Option.some.inj heq]) ?_
      rw [Option.some.inj heq, show reads - 1 = 0 by omega, hfirst]
  | ok v =>
      obtain ⟨n, hwaits, hexit⟩ := exists_exit v hfirst fuel run hrun
      exact hwaits.endsRight (h n hwaits).1 (h n hwaits).2 run hexit

theorem ends_of_harmless (h : ∀ n, p.Waits n → p.TimerRight n) (n : Nat)
    (hover : p.delayTicks < p.timer.elapsed n) :
    ∃ run, p.run (n + 1) = some run ∧ run.reads ≤ n + 1 := by
  cases hfirst : p.contents 0 with
  | error e =>
      obtain ⟨reads, hreads, heq⟩ := p.run_of_error e hfirst (n + 1)
      exact ⟨_, heq, by dsimp only; omega⟩
  | ok v =>
      by_cases hwaits : p.Waits n
      · have htime : ¬ p.timer.advance n ≤ p.numberOfTicks := fun htime =>
          Nat.not_le.mpr hover ((h n hwaits).1 htime)
        exact ⟨_, hwaits.run_exit _ ((body_exit_iff n _).mpr (.inl ⟨htime, rfl⟩)), Nat.le_refl _⟩
      · obtain ⟨k, hk, hbefore, run, hexit⟩ := exists_exit_of_not_waits v hfirst n hwaits
        have hrun := Loop.run_mono p.body (k + 1) (n - k) (p.stateAt 0) run
          (by rw [← p.run_of_ok v hfirst]; exact hbefore.run_exit run hexit)
        refine ⟨run, ?_, ?_⟩
        · rw [p.run_of_ok v hfirst, ← hrun]
          congr 1
          omega
        · rcases (body_exit_iff k run).mp hexit with
            ⟨-, rfl⟩ | ⟨-, ⟨e, -, rfl⟩ | ⟨v', -, -, rfl⟩⟩ <;> dsimp only <;> omega

theorem reports_of_harmless (h : ∀ n, p.Waits n → p.TimerRight n ∧ p.StaleHarmless n) :
    p.Reports where
  success_iff fuel run hrun := (endsRight_of_harmless h fuel run hrun).success_iff
  result_eq fuel run hrun := (endsRight_of_harmless h fuel run hrun).result_eq
  late fuel run hrun := (endsRight_of_harmless h fuel run hrun).late
  ends n hover := ends_of_harmless (fun n hn => (h n hn).1) n hover

/-- While the poll waits, the counter does not roll over. -/
def NeverRolls (p : RegisterPoll) : Prop :=
  ∀ n, p.Waits n → p.timer.time n / p.timer.period = p.timer.time 0 / p.timer.period

theorem toNat_advance {n : Nat}
    (h : p.timer.time n / p.timer.period = p.timer.time 0 / p.timer.period) :
    (p.timer.advance n).toNat = p.timer.elapsed n := by
  have hlater : p.timer.time 0 ≤ p.timer.time n := monotone_nat_of_le_succ p.timer.time_le n.zero_le
  have hn := Nat.div_add_mod (p.timer.time n) p.timer.period
  have hzero := Nat.div_add_mod (p.timer.time 0) p.timer.period
  have hperiod := p.timer.period_le
  have hposition : p.timer.position n < p.timer.period :=
    Nat.mod_lt _ (Nat.succ_pos _)
  rw [h] at hn
  rw [p.timer.advance_eq, PerformanceTimer.elapsed, BitVec.toNat_sub, BitVec.toNat_ofNat,
    BitVec.toNat_ofNat]
  rw [PerformanceTimer.position] at hposition ⊢
  rw [PerformanceTimer.position]
  omega

theorem toNat_numberOfTicks
    (h : p.timer.frequency.toNat * p.delay.toNat / 10000000 < 2 ^ 64 - 1) :
    p.numberOfTicks.toNat = p.delayTicks := by
  obtain ⟨hquotient, hrest⟩ :
      DividedExactly p.timer.frequency p.delay EFI_TIMER_PERIOD_SECOND :=
    dividedExactly _ _ (by decide) p.delay_ne
  have hsecond : EFI_TIMER_PERIOD_SECOND.toNat = 10000000 := rfl
  have hhalf : (EFI_TIMER_PERIOD_SECOND / 2).toNat = 5000000 := rfl
  have hone : (1 : U64).toNat = 1 := rfl
  rw [hsecond] at hquotient hrest
  rw [numberOfTicks, pollNumberOfTicks, delayTicks]
  split
  · next hup =>
    rw [ge_iff_le, BitVec.le_def, hhalf, hrest] at hup
    rw [BitVec.toNat_add, hone, hquotient]
    omega
  · next hdown =>
    rw [ge_iff_le, BitVec.le_def, hhalf, hrest] at hdown
    rw [hquotient]
    omega

/-- A poll is as documented when the result is clear above the width, the delay is fewer than
`2 ^ 64 - 1` ticks and the counter does not roll over. -/
theorem reports_of_clear (hclear : p.stale = 0)
    (hdelay : p.timer.frequency.toNat * p.delay.toNat / 10000000 < 2 ^ 64 - 1)
    (hcounter : NeverRolls p) : p.Reports := by
  refine reports_of_harmless fun n hwaits => ⟨?_, .inl hclear⟩
  rw [TimerRight, BitVec.le_def, toNat_advance (hcounter n hwaits), toNat_numberOfTicks hdelay]
  refine ⟨id, fun hearly => ?_⟩
  rw [delayTicks]
  omega

end Reports

end RegisterPoll

/-- A poll reports what it read, and in time, if and only if at every sample up to its
end the count tells whether the delay is over and stale bytes do no harm. -/
theorem pollReg_reports_iff (p : RegisterPoll) :
    p.Reports ↔ ∀ n, p.Waits n → p.TimerRight n ∧ p.StaleHarmless n :=
  ⟨fun h _ hwaits => ⟨hwaits.timerRight h, hwaits.staleHarmless h⟩,
    RegisterPoll.reports_of_harmless⟩

/-- A 1 MHz counter that is sampled at every tick and never rolls over. -/
def megahertzTimer : PerformanceTimer where
  frequency := 1000000
  startTick := 0
  endTick := MAX_UINT64
  time n := n
  time_le n := Nat.le_succ n
  time_lt n := Nat.add_lt_add_left (by decide) n

/-- A byte register that holds one, polled for one into a result that was not cleared. -/
def unclearedPoll : RegisterPoll where
  timer := megahertzTimer
  read _ _ := .ok 1
  this := some plainDevice
  width := .uint8
  reg := some ⟨0, 0, 1, none⟩
  offset := 0
  mask := MAX_UINT64
  value := 1
  delay := 1
  result := 0x100
  plain := by decide
  delay_ne := by decide

/-- The poll times out, although every value read met the criteria. -/
theorem unclearedPoll_not_reports : ¬ unclearedPoll.Reports := by
  intro h
  have hread (n : Nat) : unclearedPoll.contents n = .ok 1 := rfl
  have hticks : unclearedPoll.numberOfTicks = 0 := by
    rw [RegisterPoll.numberOfTicks, pollNumberOfTicks, multThenDivU64x64x32, if_neg (by decide)]
    decide
  have hwaits : unclearedPoll.Waits 1 := by
    refine ⟨⟨1, hread 0⟩, fun k hk => ?_⟩
    rw [Nat.lt_one_iff.mp hk, hticks]
    exact ⟨by decide, 1, hread 1, by decide⟩
  rcases hwaits.staleHarmless h with hzero | hharmless
  · exact absurd hzero (by decide)
  · rw [hticks, if_neg (by decide)] at hharmless
    exact hharmless 1 (hread 1) (by decide)

end FdtBusPkg
