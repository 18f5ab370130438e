import FdtBusPkg.Serial.Transfer

/-!
What one transfer does to the bytes of a serial port: those that leave the transmit FIFO are
handed over, and those that arrive enter the receive FIFO, unless a byte comes with an error or
the loopback finds the receive FIFO full.
-/
namespace FdtBusPkg

/-- The bytes that are `sent` have been handed over or wait to be transmitted, and those that
have arrived were returned or wait in the receive FIFO. -/
structure Balanced (sent returned : List U8) (s : SerialState) : Prop where
  handed : s.handed = s.taken
  sent : s.taken ++ s.transmit.contents = sent
  arrived : returned ++ s.receive.contents = s.arrived

/-- A balance is kept, and nothing appears in an empty transmit FIFO. -/
structure Moved (s t : SerialState) : Prop where
  balanced : ∀ {sent returned}, Balanced sent returned s → Balanced sent returned t
  idle : s.transmit.IsEmpty → t.transmit.IsEmpty

namespace Moved

theorem refl (s : SerialState) : Moved s s := ⟨id, id⟩

theorem trans {s t u : SerialState} (hst : Moved s t) (htu : Moved t u) : Moved s u :=
  ⟨fun h => htu.balanced (hst.balanced h), fun h => htu.idle (hst.idle h)⟩

end Moved

section Bytes

variable {s t : SerialState}

theorem contents_of_idle (h : s.transmit.IsEmpty) : s.transmit.contents = [] :=
  s.transmit.isEmpty_iff.mp h

theorem moved_setRts (value : Bool) : Moved s (s.setRts value) :=
  ⟨fun h => ⟨h.handed, h.sent, h.arrived⟩, id⟩

theorem moved_readLsr (line : SerialLine) : Moved s (s.readLsr line).2 :=
  ⟨fun h => ⟨h.handed, h.sent, h.arrived⟩, id⟩

theorem moved_readRbr (line : SerialLine) : Moved s (s.readRbr line).2 :=
  ⟨fun h => ⟨h.handed, h.sent, h.arrived⟩, id⟩

theorem moved_readMsr (line : SerialLine) : Moved s (s.readMsr line).2 :=
  ⟨fun h => ⟨h.handed, h.sent, h.arrived⟩, id⟩

theorem serialFifoAdd_eq {fifo : SerialDevFifo} (h : ¬ fifo.IsFull) (data : U8) :
    (serialFifoAdd fifo data).2 = fifo.push data := by
  rw [serialFifoAdd, if_neg h]

theorem removeTransmit_eq (h : ¬ s.transmit.IsEmpty) :
    s.removeTransmit = (s.transmit.data s.transmit.head,
      { s with
        transmit := s.transmit.pop
        taken := s.taken ++ [s.transmit.data s.transmit.head] }) := by
  rw [SerialState.removeTransmit, serialFifoRemove, if_neg h]

theorem moved_sendByte (h : ¬ s.transmit.IsEmpty) : Moved s (sendByte s) := by
  refine ⟨fun hs => ?_, fun hempty => absurd hempty h⟩
  rw [sendByte, removeTransmit_eq h]
  refine ⟨congrArg (· ++ _) hs.handed, ?_, hs.arrived⟩
  dsimp only [SerialState.writeThr]
  rw [List.append_assoc, ← hs.sent, s.transmit.contents_pop h]
  rfl

theorem balanced_addReceived {sent returned : List U8} (h : ¬ s.receive.IsFull) (data : U8)
    (hs : Balanced sent returned s) : Balanced sent returned (s.addReceived data) := by
  refine ⟨hs.handed, hs.sent, ?_⟩
  dsimp only [SerialState.addReceived]
  rw [serialFifoAdd_eq h, s.receive.contents_push data h, ← List.append_assoc, hs.arrived]

theorem moved_addReceived (h : ¬ s.receive.IsFull) (data : U8) : Moved s (s.addReceived data) :=
  ⟨balanced_addReceived h data, id⟩

end Bytes

section Line

variable (dev : SerialDev) (line : SerialLine)

theorem moved_waitForCts (reads : Nat) (msr : U8) (s : SerialState) :
    Moved s (waitForCts line reads msr s).2 := by
  induction reads generalizing msr s with
  | zero => exact Moved.refl s
  | succ reads ih =>
      rw [waitForCts]
      split
      · exact (moved_readMsr line).trans (ih _ _)
      · exact Moved.refl s

theorem transmit_waitForCts (reads : Nat) (msr : U8) (s : SerialState) :
    (waitForCts line reads msr s).2.transmit = s.transmit := by
  induction reads generalizing msr s with
  | zero => rfl
  | succ reads ih =>
      rw [waitForCts]
      split
      · exact ih _ _
      · rfl

theorem moved_setHandshake (value : Bool) (s : SerialState) :
    Moved s (setHandshake line value s) := by
  rw [setHandshake]
  split
  · exact moved_setRts value
  · exact Moved.refl s

theorem transmit_setHandshake (value : Bool) (s : SerialState) :
    (setHandshake line value s).transmit = s.transmit := by
  rw [setHandshake]
  split <;> rfl

theorem moved_sendWhenClear (s : SerialState) (h : ¬ s.transmit.IsEmpty) :
    Moved s (sendWhenClear line s) := by
  rw [sendWhenClear]
  have hread := (moved_setHandshake line false s).trans (moved_readMsr line)
  have hwait := hread.trans (moved_waitForCts line 5
    ((setHandshake line false s).readMsr line).1 ((setHandshake line false s).readMsr line).2)
  have hfifo := (transmit_waitForCts line 5 ((setHandshake line false s).readMsr line).1
    ((setHandshake line false s).readMsr line).2).trans (transmit_setHandshake line false s)
  dsimp only
  refine Moved.trans ?_ (moved_setHandshake line true _)
  split
  · refine hwait.trans (moved_sendByte ?_)
    rw [hfifo]
    exact h
  · exact hwait

theorem moved_transmitByte (lsr : U8) (s : SerialState) :
    Moved s (transmitByte dev line lsr s) := by
  rw [transmitByte]
  split
  · next hready =>
      split
      · exact moved_sendWhenClear line s hready.2
      · exact moved_sendByte hready.2
  · exact Moved.refl s

theorem moved_receiveByte (hline : line.NoReceiveErrors) {s : SerialState}
    (hfull : ¬ s.receive.IsFull) (k : Nat) : Moved s (receiveByte dev line (line.lsr k) s) := by
  have hclean : ¬ ((line.lsr k).getLsbD Lsr.FIFOe ∨ (line.lsr k).getLsbD Lsr.Pe ∨
      (line.lsr k).getLsbD Lsr.Fe ∨ (line.lsr k).getLsbD Lsr.Bi) := by
    have hbits := hline k
    simp only [List.forall_mem_cons] at hbits
    simp [hbits]
  have hadd : Moved s ((s.readRbr line).2.addReceived (s.readRbr line).1) :=
    (moved_readRbr line).trans (moved_addReceived (s := (s.readRbr line).2) hfull _)
  rw [receiveByte]
  dsimp only
  rw [if_neg hclean]
  split
  · exact hadd.trans (moved_setRts false)
  · exact hadd

/-- An iteration over the line goes on or ends in a state in which the bytes have moved. -/
theorem lineBody_eq (hline : line.NoReceiveErrors) (s : SerialState) (receiveFifoFull : Bool) :
    ∃ lsr full t, lineBody dev line (s, receiveFifoFull) = lineWhile lsr full t ∧ Moved s t := by
  rw [lineBody]
  have hread := moved_readLsr (s := s) line
  dsimp only
  split
  · split
    · exact ⟨_, _, _, rfl, hread.trans (moved_transmitByte dev line _ _)⟩
    · next hfull =>
        exact ⟨_, _, _, rfl, hread.trans (moved_receiveByte dev line hline hfull s.lsrReads)⟩
  · exact ⟨_, _, _, rfl, hread.trans (moved_transmitByte dev line _ _)⟩

theorem lineWhile_next {lsr : U8} {full : Bool} {s : SerialState} {y : SerialState × Bool}
    (h : lineWhile lsr full s = .next y) : y.1 = s := by
  rw [lineWhile] at h
  split at h
  · exact congrArg Prod.fst (Loop.Step.next.inj h).symm
  · exact nomatch h

theorem lineWhile_exit {lsr : U8} {full : Bool} {s t : SerialState}
    (h : lineWhile lsr full s = .exit t) : t = s := by
  rw [lineWhile] at h
  split at h
  · exact nomatch h
  · exact (Loop.Step.exit.inj h).symm

theorem moved_lineLoop (hline : line.NoReceiveErrors) {fuel : Nat} {s t : SerialState}
    {receiveFifoFull : Bool} (h : Loop.run (lineBody dev line) fuel (s, receiveFifoFull) = some t) :
    Moved s t := by
  have hstep (x y : SerialState × Bool) (hx : Moved s x.1)
      (hy : lineBody dev line x = .next y) : Moved s y.1 := by
    obtain ⟨lsr, full, u, hbody, hu⟩ := lineBody_eq dev line hline x.1 x.2
    rw [lineWhile_next (hbody.symm.trans hy)]
    exact hx.trans hu
  obtain ⟨x, hx, hexit⟩ := Loop.exit_of_run _ (fun x => Moved s x.1) hstep fuel
    (s, receiveFifoFull) t (Moved.refl s) h
  obtain ⟨lsr, full, u, hbody, hu⟩ := lineBody_eq dev line hline x.1 x.2
  rw [lineWhile_exit (hbody.symm.trans hexit)]
  exact hx.trans hu

/-- The bytes that wait to be transmitted fit in what is free of the receive FIFO. -/
def Room (s : SerialState) : Prop :=
  s.transmit.contents.length + s.receive.contents.length < SERIAL_MAX_FIFO_SIZE

/-- With room, the loopback moves every byte to the receive FIFO. -/
structure LoopedBack (s t : SerialState) : Prop where
  moved : Moved s t
  total : t.transmit.contents.length + t.receive.contents.length =
    s.transmit.contents.length + s.receive.contents.length

theorem loopedBack_step {s : SerialState} (hempty : ¬ s.transmit.IsEmpty)
    (hfull : ¬ s.receive.IsFull) :
    LoopedBack s ((s.removeTransmit.2.addReceived s.removeTransmit.1).writeThr
      s.removeTransmit.1) := by
  rw [removeTransmit_eq hempty]
  have hpop := s.transmit.contents_pop hempty
  have hpush := s.receive.contents_push (s.transmit.data s.transmit.head) hfull
  refine ⟨⟨fun hs => ⟨congrArg (· ++ _) hs.handed, ?_, ?_⟩, fun h => absurd h hempty⟩, ?_⟩
  · dsimp only [SerialState.writeThr, SerialState.addReceived]
    rw [List.append_assoc, ← hs.sent, hpop]
    rfl
  · dsimp only [SerialState.writeThr, SerialState.addReceived]
    rw [serialFifoAdd_eq hfull, hpush, ← List.append_assoc, hs.arrived]
  · dsimp only [SerialState.writeThr, SerialState.addReceived]
    rw [serialFifoAdd_eq hfull, hpush, hpop, List.length_append]
    simp only [List.length_cons, List.length_nil]
    omega

theorem not_full_of_room {s : SerialState} (hempty : ¬ s.transmit.IsEmpty) (hroom : Room s) :
    ¬ s.receive.IsFull := by
  have hpos : 0 < s.transmit.contents.length := by
    rw [s.transmit.contents_pop hempty]
    exact Nat.succ_pos _
  rw [s.receive.isFull_iff]
  rw [Room] at hroom
  omega

theorem loopbackLoop_spec {fuel : Nat} {s : SerialState} {r : EfiStatus × SerialState}
    (hroom : Room s) (h : Loop.run loopbackBody fuel s = some r) :
    r.1 = .ok () ∧ LoopedBack s r.2 ∧ r.2.transmit.IsEmpty := by
  have hbody (t : SerialState) (ht : LoopedBack s t) :
      (∀ u, loopbackBody t = .next u → LoopedBack s u) ∧
        ∀ r, loopbackBody t = .exit r →
          r.1 = .ok () ∧ LoopedBack s r.2 ∧ r.2.transmit.IsEmpty := by
    rw [loopbackBody]
    split
    · next hempty =>
        refine ⟨(fun u hu => nomatch hu), fun r hr => ?_⟩
        cases hr
        exact ⟨rfl, ht, hempty⟩
    · next hempty =>
        have hfull : ¬ t.receive.IsFull := by
          refine not_full_of_room hempty ?_
          rw [Room, ht.total]
          exact hroom
        have hstep := loopedBack_step hempty hfull
        have hnext : LoopedBack s _ := ⟨ht.moved.trans hstep.moved, hstep.total.trans ht.total⟩
        dsimp only
        rw [if_neg hfull]
        split
        · next hdone =>
            refine ⟨(fun u hu => nomatch hu), fun r hr => ?_⟩
            cases hr
            exact ⟨rfl, hnext, hdone⟩
        · refine ⟨fun u hu => ?_, fun r hr => nomatch hr⟩
          cases hu
          exact hnext
  obtain ⟨t, ht, hexit⟩ := Loop.exit_of_run loopbackBody (LoopedBack s)
    (fun t u ht hu => (hbody t ht).1 u hu) fuel s r ⟨Moved.refl s, rfl⟩ h
  exact (hbody t ht).2 r hexit

/-- In loopback with room, or on a line without receive errors, bytes only move. -/
theorem receiveTransmit_spec (hline : line.NoReceiveErrors) {fuel : Nat} {s t : SerialState}
    {status : EfiStatus} (hroom : dev.softwareLoopbackEnable = true → Room s)
    (h : serialReceiveTransmit dev line fuel s = some (status, t)) :
    status = .ok () ∧ Moved s t ∧
      (dev.softwareLoopbackEnable = true → LoopedBack s t ∧ t.transmit.IsEmpty) := by
  rw [serialReceiveTransmit] at h
  split at h
  · next hloopback =>
      obtain ⟨hstatus, hlooped, hempty⟩ := loopbackLoop_spec (hroom hloopback) h
      exact ⟨hstatus, hlooped.moved, fun _ => ⟨hlooped, hempty⟩⟩
  · next hhardware =>
      obtain ⟨u, hrun, hu⟩ := Option.map_eq_some_iff.mp h
      cases hu
      refine ⟨rfl, ?_, fun hloopback => absurd hloopback hhardware⟩
      have hmoved := moved_lineLoop dev line hline hrun
      split at hmoved
      · exact (moved_setRts true).trans hmoved
      · exact hmoved

end Line

end FdtBusPkg
