import FdtBusPkg.Serial.Conservation

/-!
What the line has to do for a write to fit. Every attempt to get a byte out that fails has ended
with a read of the line status that shows no room for it, and the attempts are counted by the
time they take.
-/
namespace FdtBusPkg

namespace SerialLine

/-- The line status of a read shows room for a byte to send. -/
def Room (line : SerialLine) (k : Nat) : Prop := (line.lsr k).getLsbD Lsr.Thre = true

instance (line : SerialLine) (k : Nat) : Decidable (line.Room k) :=
  inferInstanceAs (Decidable (_ = _))

/-- Room for a byte to send, and none to receive. -/
def Takes (line : SerialLine) (k : Nat) : Prop := line.Room k ∧ (line.lsr k).getLsbD Lsr.Dr = false

/-- The reads without room among those from `first` on. -/
def busyReads (line : SerialLine) (first reads : Nat) : Nat :=
  (List.range reads).countP fun k => ¬ line.Room (first + k)

/-- From a read of the line status on, the line takes a byte before the timeout. -/
def TakesInTime (line : SerialLine) (timeout : Uintn) (first : Nat) : Prop :=
  ∃ reads, line.Takes (first + reads) ∧
    10 * line.busyReads first reads < timeout.toNat + 10

/-- The peer is not there, or ready whenever it is asked. -/
def PeerReady (line : SerialLine) : Prop :=
  ∀ k, (line.msr k).getLsbD Msr.Dcd = false ∨
    ((line.msr k).getLsbD Msr.Cts ^^ line.useHalfHandshake) = true

theorem busyReads_mono (line : SerialLine) (first : Nat) {m n : Nat} (h : m ≤ n) :
    line.busyReads first m ≤ line.busyReads first n :=
  (List.range_sublist.mpr h).countP_le

theorem busyReads_succ (line : SerialLine) (first : Nat) {n : Nat} (h : ¬ line.Room (first + n)) :
    line.busyReads first (n + 1) = line.busyReads first n + 1 := by
  rw [busyReads, List.range_succ, List.countP_append, List.countP_singleton]
  simp [busyReads, h]

end SerialLine

section Ready

variable (dev : SerialDev) (line : SerialLine)

def OneWaits (s : SerialState) : Prop := ¬ s.transmit.IsEmpty ∧ s.transmit.pop.IsEmpty

theorem oneWaits_addTransmit {s : SerialState} (hidle : s.transmit.IsEmpty) (data : U8) :
    OneWaits (s.addTransmit data) := by
  have hcontents := contents_addTransmit hidle data
  have hempty : ¬ (s.addTransmit data).transmit.IsEmpty := fun hempty => by
    rw [contents_of_idle hempty] at hcontents
    exact List.cons_ne_nil _ _ hcontents.symm
  refine ⟨hempty, (RingBuffer.isEmpty_iff _).mpr ?_⟩
  rw [(s.addTransmit data).transmit.contents_pop hempty] at hcontents
  exact (List.cons.inj hcontents).2

theorem isEmpty_sendByte {s : SerialState} (h : OneWaits s) : (sendByte s).transmit.IsEmpty := by
  rw [sendByte, removeTransmit_eq h.1]
  exact h.2

theorem isEmpty_sendWhenClear (hpeer : line.PeerReady) {s : SerialState} (h : OneWaits s) :
    (sendWhenClear line s).transmit.IsEmpty := by
  have hready := hpeer (setHandshake line false s).msrReads
  have hfifo := transmit_setHandshake line false s
  have hwaits : ¬ waitsForCts line (line.msr (setHandshake line false s).msrReads) := by
    rintro ⟨hdcd, hcts⟩
    cases hready with
    | inl hnone => exact Bool.false_ne_true (hnone.symm.trans hdcd)
    | inr hclear =>
        rw [Bool.not_xor, hclear] at hcts
        exact Bool.false_ne_true hcts
  rw [sendWhenClear]
  dsimp only [SerialState.readMsr]
  rw [waitForCts, if_neg hwaits]
  dsimp only
  rw [transmit_setHandshake, if_pos (hready.imp (fun h => by simp [h]) id)]
  refine isEmpty_sendByte ?_
  rw [OneWaits]
  dsimp only
  rw [hfifo]
  exact h

theorem isEmpty_transmitByte (hpeer : dev.hardwareFlowControl = true → line.PeerReady) {lsr : U8}
    (hroom : lsr.getLsbD Lsr.Thre = true) {s : SerialState} (h : OneWaits s) :
    (transmitByte dev line lsr s).transmit.IsEmpty := by
  rw [transmitByte, if_pos ⟨hroom, h.1⟩]
  split
  · next hflow => exact isEmpty_sendWhenClear line (hpeer hflow) h
  · exact isEmpty_sendByte h

theorem receiveByte_transmit (lsr : U8) (s : SerialState) :
    (receiveByte dev line lsr s).transmit = s.transmit ∧
      (receiveByte dev line lsr s).lsrReads = s.lsrReads := by
  rw [receiveByte]
  dsimp only [SerialState.readRbr]
  split
  · exact ⟨rfl, rfl⟩
  · split
    · exact ⟨rfl, rfl⟩
    · exact ⟨rfl, rfl⟩

/-- The byte waits still, and the reads since `s` have not taken it. -/
structure StillWaits (s t : SerialState) : Prop where
  transmit : t.transmit = s.transmit
  later : s.lsrReads ≤ t.lsrReads
  untaken (k : Nat) (hfrom : s.lsrReads ≤ k) (hto : k < t.lsrReads) : ¬ line.Takes k

variable {line} in
theorem StillWaits.next {s t u : SerialState} (h : StillWaits line s t)
    (htransmit : u.transmit = t.transmit) (hread : u.lsrReads = t.lsrReads + 1)
    (hnot : ¬ line.Takes t.lsrReads) : StillWaits line s u where
  transmit := htransmit.trans h.transmit
  later := hread ▸ Nat.le_succ_of_le h.later
  untaken k hfrom hto := by
    rw [hread] at hto
    obtain hlt | rfl := Nat.lt_succ_iff_lt_or_eq.mp hto
    · exact h.untaken k hfrom hlt
    · exact hnot

/-- An iteration over the line gets the byte out, or ends without room for it, or has received
one instead. -/
theorem lineBody_waits (hpeer : dev.hardwareFlowControl = true → line.PeerReady)
    {s : SerialState} (h : OneWaits s) (receiveFifoFull : Bool) :
    (∃ t, lineBody dev line (s, receiveFifoFull) = .exit t ∧ t.transmit.IsEmpty) ∨
      ∃ t, t.transmit = s.transmit ∧ t.lsrReads = s.lsrReads + 1 ∧ ¬ line.Takes s.lsrReads ∧
        ((lineBody dev line (s, receiveFifoFull) = .exit t ∧ ¬ line.Room s.lsrReads) ∨
          ∃ full, lineBody dev line (s, receiveFifoFull) = .next (t, full)) := by
  have hread : OneWaits (s.readLsr line).2 := h
  have hsend (full : Bool) :
      (∃ t, lineWhile (line.lsr s.lsrReads) full
          (transmitByte dev line (line.lsr s.lsrReads) (s.readLsr line).2) = .exit t ∧
        t.transmit.IsEmpty) ∨
      ∃ t, t.transmit = s.transmit ∧ t.lsrReads = s.lsrReads + 1 ∧ ¬ line.Takes s.lsrReads ∧
        lineWhile (line.lsr s.lsrReads) full
          (transmitByte dev line (line.lsr s.lsrReads) (s.readLsr line).2) = .exit t ∧
        ¬ line.Room s.lsrReads := by
    by_cases hroom : line.Room s.lsrReads
    · have hsent := isEmpty_transmitByte dev line hpeer hroom hread
      exact .inl ⟨_, if_neg fun hmore => hmore.2 hsent, hsent⟩
    · have hkept : transmitByte dev line (line.lsr s.lsrReads) (s.readLsr line).2 =
          (s.readLsr line).2 := if_neg fun hmore => hroom hmore.1
      refine .inr ⟨(s.readLsr line).2, rfl, rfl, fun htakes => hroom htakes.1, ?_, hroom⟩
      rw [hkept]
      exact if_neg fun hmore => hroom hmore.1
  rw [lineBody]
  dsimp only
  split
  · next hdata =>
      split
      · refine (hsend true).imp_right fun hwaits => ?_
        obtain ⟨t, htransmit, hreads, htakes, hexit⟩ := hwaits
        exact ⟨t, htransmit, hreads, htakes, .inl hexit⟩
      · obtain ⟨htransmit, hreads⟩ := receiveByte_transmit dev line (line.lsr s.lsrReads)
          (s.readLsr line).2
        have htakes : ¬ line.Takes s.lsrReads := fun htakes =>
          Bool.false_ne_true (htakes.2.symm.trans hdata.1)
        refine .inr ⟨_, htransmit, hreads, htakes, ?_⟩
        rw [SerialState.readLsr]
        dsimp only
        by_cases hroom : line.Room s.lsrReads
        · refine .inr ⟨false, if_pos ⟨hroom, ?_⟩⟩
          exact fun hempty => h.1 (by rwa [← show _ = s.transmit from htransmit])
        · exact .inl ⟨if_neg fun hmore => hroom hmore.1, hroom⟩
  · refine (hsend receiveFifoFull).imp_right fun hwaits => ?_
    obtain ⟨t, htransmit, hreads, htakes, hexit⟩ := hwaits
    exact ⟨t, htransmit, hreads, htakes, .inl hexit⟩

variable {line} in
theorem StillWaits.oneWaits {s t : SerialState} (h : StillWaits line s t) (hs : OneWaits s) :
    OneWaits t := by
  rw [OneWaits, h.transmit]
  exact hs

variable {line} in
theorem StillWaits.trans {s t u : SerialState} (h : StillWaits line s t)
    (h' : StillWaits line t u) : StillWaits line s u where
  transmit := h'.transmit.trans h.transmit
  later := Nat.le_trans h.later h'.later
  untaken k hfrom hto := by
    by_cases hbefore : k < t.lsrReads
    · exact h.untaken k hfrom hbefore
    · exact h'.untaken k (Nat.le_of_not_lt hbefore) hto

/-- An attempt gets the byte out, or ends with a read that shows no room for it. -/
theorem attempt_waits (hloopback : dev.softwareLoopbackEnable = false)
    (hpeer : dev.hardwareFlowControl = true → line.PeerReady) {fuel : Nat} {s t : SerialState}
    {status : EfiStatus} (h : OneWaits s)
    (hrun : serialReceiveTransmit dev line fuel s = some (status, t)) :
    status = .ok () ∧ (t.transmit.IsEmpty ∨
      StillWaits line s t ∧ ∃ k, s.lsrReads ≤ k ∧ t.lsrReads = k + 1 ∧ ¬ line.Room k) := by
  rw [serialReceiveTransmit, if_neg (by simp [hloopback])] at hrun
  obtain ⟨t', hloop, heq⟩ := Option.map_eq_some_iff.mp hrun
  obtain ⟨rfl, rfl⟩ := Prod.mk.inj heq
  refine ⟨rfl, ?_⟩
  have hstart : StillWaits line s (if dev.hardwareFlowControl = true ∧
      ¬ line.useHalfHandshake = true ∧ ¬ decide s.receive.IsFull = true then s.setRts true
      else s) := by
    split
    · exact ⟨rfl, Nat.le_refl _, fun k hfrom hto => absurd hto (Nat.not_lt.mpr hfrom)⟩
    · exact ⟨rfl, Nat.le_refl _, fun k hfrom hto => absurd hto (Nat.not_lt.mpr hfrom)⟩
  have hstep (x y : SerialState × Bool) (hx : StillWaits line s x.1)
      (hy : lineBody dev line x = .next y) : StillWaits line s y.1 := by
    obtain ⟨u, hu, -⟩ | ⟨u, htransmit, hreads, htakes, ⟨hu, -⟩ | ⟨full, hu⟩⟩ :=
      lineBody_waits dev line hpeer (hx.oneWaits h) x.2
    · cases hy.symm.trans hu
    · cases hy.symm.trans hu
    · obtain rfl := Loop.Step.next.inj (hy.symm.trans hu)
      exact hx.next htransmit hreads htakes
  obtain ⟨x, hx, hexit⟩ := Loop.exit_of_run _ (fun x => StillWaits line s x.1) hstep fuel _ _
    hstart hloop
  obtain ⟨u, hu, hempty⟩ | ⟨u, htransmit, hreads, htakes, ⟨hu, hroom⟩ | ⟨full, hu⟩⟩ :=
    lineBody_waits dev line hpeer (hx.oneWaits h) x.2
  · obtain rfl := Loop.Step.exit.inj (hexit.symm.trans hu)
    exact .inl hempty
  · obtain rfl := Loop.Step.exit.inj (hexit.symm.trans hu)
    exact .inr ⟨hx.next htransmit hreads htakes, _, hx.later, hreads, hroom⟩
  · cases hexit.symm.trans hu

/-- The time counted is within that of the reads that have shown no room. -/
structure Counted (s : SerialState) (attempt : Uintn × SerialState) : Prop where
  waits : StillWaits line s attempt.2
  elapsed : attempt.1.toNat ≤
    10 * line.busyReads s.lsrReads (attempt.2.lsrReads - s.lsrReads)

variable {line} in
/-- A further attempt that fails counts, and is not the last that there is time for. -/
theorem Counted.next {timeout elapsed : Uintn} {s u t : SerialState}
    (h : Counted line s (elapsed, u))
    (hintime : line.TakesInTime timeout s.lsrReads) (hwaits : StillWaits line u t) {k : Nat}
    (hfrom : u.lsrReads ≤ k) (hlast : t.lsrReads = k + 1) (hroom : ¬ line.Room k) :
    elapsed < timeout ∧ Counted line s (elapsed + TIMEOUT_STALL_INTERVAL, t) := by
  obtain ⟨reads, htakes, htime⟩ := hintime
  have hall := h.waits.trans hwaits
  have hlater : s.lsrReads ≤ u.lsrReads := h.waits.later
  have hbefore : t.lsrReads ≤ s.lsrReads + reads := Nat.le_of_not_lt fun hover =>
    hall.untaken _ (Nat.le_add_right _ _) hover htakes
  have hmore : line.busyReads s.lsrReads (u.lsrReads - s.lsrReads) + 1 ≤
      line.busyReads s.lsrReads (t.lsrReads - s.lsrReads) := by
    have hindex : s.lsrReads + (k - s.lsrReads) = k := by omega
    have hsucc := line.busyReads_succ s.lsrReads (n := k - s.lsrReads) (by rwa [hindex])
    rw [show t.lsrReads - s.lsrReads = k - s.lsrReads + 1 by omega, hsucc]
    exact Nat.succ_le_succ (line.busyReads_mono _ (Nat.sub_le_sub_right hfrom _))
  have hmost := line.busyReads_mono s.lsrReads (Nat.sub_le_iff_le_add'.mpr hbefore)
  have helapsed : elapsed.toNat ≤
    10 * line.busyReads s.lsrReads (u.lsrReads - s.lsrReads) := h.elapsed
  refine ⟨BitVec.lt_def.mpr (by omega), hall, ?_⟩
  have hinterval : TIMEOUT_STALL_INTERVAL.toNat = 10 := rfl
  have hwrap := Nat.mod_le (elapsed.toNat + 10) (2 ^ 64)
  dsimp only
  rw [BitVec.toNat_add, hinterval]
  omega

theorem waitSucceeds_of_takes (hloopback : dev.softwareLoopbackEnable = false)
    (hpeer : dev.hardwareFlowControl = true → line.PeerReady) {fuel : Nat} {timeout : Uintn}
    {s : SerialState} (h : OneWaits s) (hintime : line.TakesInTime timeout s.lsrReads) :
    SerialSession.WaitSucceeds dev line fuel timeout s := by
  have hbody {attempt : Uintn × SerialState} (hcounted : Counted line s attempt)
      {step : Loop.Step (Uintn × SerialState) (Bool × SerialState)}
      (hstep : waitBody dev line fuel timeout attempt = some step) :
      (∃ t, step = .exit (true, t)) ∨ ∃ next, step = .next next ∧ Counted line s next := by
    obtain ⟨elapsed, u⟩ := attempt
    obtain ⟨⟨status, t⟩, hattempt, hrest⟩ := Option.bind_eq_some_iff.mp hstep
    obtain ⟨rfl, hempty | ⟨hwaits, k, hfrom, hlast, hroom⟩⟩ :=
      attempt_waits dev line hloopback hpeer (hcounted.waits.oneWaits h) hattempt
    · dsimp only at hrest
      rw [if_neg (not_or.mpr ⟨not_not_intro rfl, not_not_intro hempty⟩)] at hrest
      exact .inl ⟨t, (Option.some.inj hrest).symm⟩
    · obtain ⟨htime, hnext⟩ := hcounted.next hintime hwaits hfrom hlast hroom
      have hmore : ¬ t.transmit.IsEmpty := by
        rw [hwaits.transmit]
        exact (hcounted.waits.oneWaits h).1
      dsimp only at hrest
      rw [if_pos (.inr hmore), if_neg (BitVec.not_le.mpr htime)] at hrest
      exact .inr ⟨_, (Option.some.inj hrest).symm, hnext⟩
  intro attempt hreaches
  have hcounted : Counted line s attempt := by
    induction hreaches with
    | refl =>
        exact ⟨⟨rfl, Nat.le_refl _, fun k hfrom hto => absurd hto (Nat.not_lt.mpr hfrom)⟩,
          Nat.zero_le _⟩
    | tail hreaches hstep ih =>
        obtain ⟨t, hexit⟩ | ⟨next, hnext, hcounted⟩ := hbody ih hstep
        · cases hexit
        · exact Loop.Step.next.inj hnext ▸ hcounted
  intro t hout
  obtain ⟨t', hexit⟩ | ⟨next, hnext, -⟩ := hbody hcounted hout
  · cases hexit
  · cases hnext

/-- On a line that takes each byte in time, whenever it is offered, every write fits. -/
theorem fits_write_of_takes (hline : line.NoReceiveErrors)
    (hloopback : dev.softwareLoopbackEnable = false)
    (hpeer : dev.hardwareFlowControl = true → line.PeerReady)
    (hintime : ∀ timeout, writeTimeout dev = some timeout → ∀ first,
      line.TakesInTime timeout first) {fuel : Nat} (x : SerialSession)
    (hidle : x.state.transmit.IsEmpty) (buffer : Nat → U8) (bufferSize : Uintn) :
    x.Fits dev line fuel (.write buffer bufferSize) := by
  rw [SerialSession.Fits, if_neg (by simp [hloopback])]
  intro timeout htimeout w hreaches hmore
  clear hmore
  have hwait {s : SerialState} (hidle : s.transmit.IsEmpty) (data : U8) :
      SerialSession.WaitSucceeds dev line fuel timeout (s.addTransmit data) :=
    waitSucceeds_of_takes dev line hloopback hpeer (oneWaits_addTransmit hidle data)
      (hintime timeout htimeout _)
  refine hwait ?_ _
  induction hreaches with
  | refl => exact hidle
  | tail hreaches hnext ih =>
      obtain ⟨-, hexit⟩ | ⟨-, out, t, hrun, hstep⟩ := writeBody_cases dev line hnext
      · cases hexit
      · obtain ⟨rfl, -, hempty, -⟩ := wait_spec dev line hline
          (fun hon => absurd hon (by simp [hloopback])) (hwait ih _) hrun
        exact Loop.Step.next.inj hstep ▸ hempty

/-- A read into a buffer that a 32-bit index can address. -/
def SerialCall.Addressable : SerialCall → Prop
  | .read _ bufferSize => bufferSize.toNat < 2 ^ 32
  | _ => True

/-- On such a line no session loses a byte, doubles one or sends one unreported. -/
theorem lineSession_conserved (hline : line.NoReceiveErrors)
    (hloopback : dev.softwareLoopbackEnable = false)
    (hpeer : dev.hardwareFlowControl = true → line.PeerReady)
    (hintime : ∀ timeout, writeTimeout dev = some timeout → ∀ first,
      line.TakesInTime timeout first) {x : SerialSession}
    (h : SerialSession.Reached dev line (fun _ _ c => c.Addressable) x) : x.Conserved := by
  suffices hsettled : Settled x from hsettled.conserved
  induction h with
  | reset hreset => exact settled_of_afterReset hreset
  | call c _ hcallable hcall ih =>
      refine settled_call dev line hline c ih ?_ hcall
      cases c with
      | write buffer bufferSize =>
          exact fits_write_of_takes dev line hline hloopback hpeer hintime _ ih.idle buffer
            bufferSize
      | read buffer bufferSize => exact fits_read dev line _ buffer hcallable
      | getControl => trivial

end Ready

end FdtBusPkg
