import FdtBusPkg.Serial.Moves

/-!
What happens to the bytes of a serial port over a sequence of calls. Nothing is lost or sent
twice as long as the software loopback has room for what is written and the line takes every
byte before the timeout; otherwise a byte is dropped and reported, or sent and not reported.
-/
namespace FdtBusPkg

inductive SerialCall
  | write (buffer : Nat → U8) (bufferSize : Uintn)
  | read (buffer : Nat → U8) (bufferSize : Uintn)
  | getControl

/-- A port between two calls, with the bytes that `SerialWrite` has reported as written and
those that `SerialRead` has returned. -/
structure SerialSession where
  state : SerialState
  reported : List U8
  returned : List U8

def bytesOf (buffer : Nat → U8) (n : Nat) : List U8 := (List.range n).map buffer

namespace SerialSession

variable (dev : SerialDev) (line : SerialLine)

/-- The session after a call, if the call returns. -/
def call (fuel : Nat) (x : SerialSession) : SerialCall → Option SerialSession
  | .write buffer bufferSize => do
    let r ← serialWrite dev line fuel buffer bufferSize x.state
    some { x with state := r.state, reported := x.reported ++ bytesOf buffer r.bufferSize.toNat }
  | .read buffer bufferSize => do
    let r ← serialRead dev line fuel buffer bufferSize x.state
    some { x with state := r.state, returned := x.returned ++ bytesOf r.buffer r.bufferSize.toNat }
  | .getControl => do
    let (_, s) ← serialGetControl dev line fuel x.state
    some { x with state := s }

/-- What is left of the FIFOs by `SerialReset`. -/
def AfterReset (x : SerialSession) : Prop :=
  x.state.receive.head = 0 ∧ x.state.receive.tail = 0 ∧
    x.state.transmit.head = 0 ∧ x.state.transmit.tail = 0 ∧
    x.state.taken = [] ∧ x.state.handed = [] ∧ x.state.arrived = [] ∧
    x.reported = [] ∧ x.returned = []

/-- The sessions that calls lead to from a reset, where each call meets a condition. -/
inductive Reached (condition : Nat → SerialSession → SerialCall → Prop) : SerialSession → Prop
  | reset {x : SerialSession} : x.AfterReset → Reached condition x
  | call {x y : SerialSession} {fuel : Nat} (c : SerialCall) : Reached condition x →
      condition fuel x c → x.call dev line fuel c = some y → Reached condition y

/-- Exactly the bytes reported as written were handed over, each once and in order, none that
was taken from the transmit FIFO was dropped, and the bytes that have arrived were returned or
still wait in the receive FIFO, in order. -/
structure Conserved (x : SerialSession) : Prop where
  handed : x.state.handed = x.reported
  taken : x.state.taken = x.state.handed
  arrived : x.returned ++ x.state.receive.contents = x.state.arrived

/-- The wait for a byte to get out does not run out. -/
def WaitSucceeds (fuel : Nat) (timeout : Uintn) (s : SerialState) : Prop :=
  ∀ attempt, PartialLoop.Reaches (waitBody dev line fuel timeout) (0, s) attempt →
    ∀ t, waitBody dev line fuel timeout attempt ≠ some (.exit (false, t))

/-- In loopback, the receive FIFO has room for the bytes of a write; otherwise the line takes
each of them in time. A read takes no byte at the last index, after which the index wraps. -/
def Fits (fuel : Nat) (x : SerialSession) : SerialCall → Prop
  | .write buffer bufferSize =>
    if dev.softwareLoopbackEnable then
      x.state.receive.contents.length + bufferSize.toNat < SERIAL_MAX_FIFO_SIZE
    else
      ∀ timeout, writeTimeout dev = some timeout →
        ∀ w, PartialLoop.Reaches (writeBody dev line fuel timeout buffer bufferSize)
            ⟨0, 0, x.state⟩ w →
          w.index.setWidth 64 < bufferSize →
            WaitSucceeds dev line fuel timeout (w.state.addTransmit (buffer w.index.toNat))
  | .read buffer bufferSize =>
    ∀ status s, serialReceiveTransmit dev line fuel x.state = some (status, s) →
      ∀ r, PartialLoop.Reaches (readBody dev line fuel bufferSize) ⟨0, 0, buffer, s⟩ r →
        r.index.setWidth 64 < bufferSize → ¬ r.state.receive.IsEmpty → r.index.toNat + 1 < 2 ^ 32
  | .getControl => True

end SerialSession

section Calls

variable (dev : SerialDev) (line : SerialLine) {fuel : Nat}

theorem bytesOf_succ (buffer : Nat → U8) (n : Nat) :
    bytesOf buffer (n + 1) = bytesOf buffer n ++ [buffer n] := by
  rw [bytesOf, bytesOf, List.range_succ, List.map_append, List.map_singleton]

theorem bytesOf_update (buffer : Nat → U8) (n : Nat) (data : U8) :
    bytesOf (Function.update buffer n data) (n + 1) = bytesOf buffer n ++ [data] := by
  rw [bytesOf_succ, Function.update_self]
  refine congrArg (· ++ [data]) (List.map_congr_left fun k hk => ?_)
  exact Function.update_of_ne (Nat.ne_of_lt (List.mem_range.mp hk)) data buffer

theorem toNat_index_succ {index : U32} (h : index.toNat + 1 < 2 ^ 32) :
    (index + 1).toNat = index.toNat + 1 := by
  rw [BitVec.toNat_add]
  exact Nat.mod_eq_of_lt h

theorem bytesOf_zero (buffer : Nat → U8) : bytesOf buffer 0 = [] := rfl

/-- An attempt ends the wait with the byte out, or the byte stays and the wait runs out or goes
on; in loopback with room it does not stay. -/
theorem waitBody_cases (hline : line.NoReceiveErrors) {timeout elapsed : Uintn} {s : SerialState}
    {step : Loop.Step (Uintn × SerialState) (Bool × SerialState)}
    (hroom : dev.softwareLoopbackEnable = true → Room s)
    (h : waitBody dev line fuel timeout (elapsed, s) = some step) :
    ∃ t, Moved s t ∧ (dev.softwareLoopbackEnable = true → LoopedBack s t ∧ t.transmit.IsEmpty) ∧
      ((t.transmit.IsEmpty ∧ step = .exit (true, t)) ∨
        (¬ t.transmit.IsEmpty ∧
          (step = .exit (false, t) ∨ ∃ elapsed, step = .next (elapsed, t)))) := by
  obtain ⟨⟨status, t⟩, hattempt, hrest⟩ := Option.bind_eq_some_iff.mp h
  obtain ⟨rfl, hmoved, hlooped⟩ := receiveTransmit_spec dev line hline hroom hattempt
  refine ⟨t, hmoved, hlooped, ?_⟩
  dsimp only at hrest
  split at hrest
  · next hwaits =>
      refine .inr ⟨hwaits.resolve_left (absurd rfl), ?_⟩
      split at hrest
      · exact .inl (Option.some.inj hrest).symm
      · exact .inr ⟨_, (Option.some.inj hrest).symm⟩
  · next hdone =>
      exact .inl ⟨Classical.not_not.mp (not_or.mp hdone).2, (Option.some.inj hrest).symm⟩

theorem waitSucceeds_of_room (hline : line.NoReceiveErrors) {timeout : Uintn} {s : SerialState}
    (hloopback : dev.softwareLoopbackEnable = true) (hroom : Room s) :
    SerialSession.WaitSucceeds dev line fuel timeout s := by
  have hfirst {elapsed : Uintn} {step : Loop.Step (Uintn × SerialState) (Bool × SerialState)}
      (h : waitBody dev line fuel timeout (elapsed, s) = some step) :
      ∃ t, step = .exit (true, t) := by
    obtain ⟨t, -, hlooped, ⟨-, hexit⟩ | ⟨hfull, -⟩⟩ :=
      waitBody_cases dev line hline (fun _ => hroom) h
    · exact ⟨t, hexit⟩
    · exact absurd (hlooped hloopback).2 hfull
  intro attempt hreaches t hout
  rcases hreaches.cases_head with rfl | ⟨next, hnext, -⟩
  · obtain ⟨u, hu⟩ := hfirst hout
    exact nomatch hu
  · obtain ⟨u, hu⟩ := hfirst hnext
    exact nomatch hu

theorem wait_spec (hline : line.NoReceiveErrors) {timeout : Uintn} {s t : SerialState} {out : Bool}
    (hroom : dev.softwareLoopbackEnable = true → Room s)
    (hwait : SerialSession.WaitSucceeds dev line fuel timeout s)
    (h : PartialLoop.run (waitBody dev line fuel timeout) fuel (0, s) = some (out, t)) :
    out = true ∧ Moved s t ∧ t.transmit.IsEmpty ∧
      (dev.softwareLoopbackEnable = true → LoopedBack s t) := by
  have hrooms {u : SerialState} (hsame : dev.softwareLoopbackEnable = true → u = s)
      (hloopback : dev.softwareLoopbackEnable = true) : Room u := by
    rw [hsame hloopback]
    exact hroom hloopback
  refine PartialLoop.run_spec_of_reaches
    (fun attempt => Moved s attempt.2 ∧ (dev.softwareLoopbackEnable = true → attempt.2 = s))
    (fun r => r.1 = true ∧ Moved s r.2 ∧ r.2.transmit.IsEmpty ∧
      (dev.softwareLoopbackEnable = true → LoopedBack s r.2)) ?_ ?_ ⟨Moved.refl s, fun _ => rfl⟩ h
  · rintro ⟨elapsed, u⟩ next - ⟨hmoved, hsame⟩ hnext
    obtain ⟨v, hv, hlooped, ⟨-, hexit⟩ | ⟨hfull, hstep⟩⟩ :=
      waitBody_cases dev line hline (hrooms hsame) hnext
    · exact nomatch hexit
    · obtain hexit | ⟨elapsed', hnext'⟩ := hstep
      · exact nomatch hexit
      · obtain rfl := Loop.Step.next.inj hnext'
        exact ⟨hmoved.trans hv, fun hloopback => absurd (hlooped hloopback).2 hfull⟩
  · rintro ⟨elapsed, u⟩ r hreaches ⟨hmoved, hsame⟩ hexit
    obtain ⟨v, hv, hlooped, ⟨hempty, hr⟩ | ⟨-, hr | ⟨_, hr⟩⟩⟩ :=
      waitBody_cases dev line hline (hrooms hsame) hexit
    · obtain rfl := Loop.Step.exit.inj hr
      refine ⟨rfl, hmoved.trans hv, hempty, fun hloopback => ?_⟩
      rw [← show u = s from hsame hloopback]
      exact (hlooped hloopback).1
    · rw [hr] at hexit
      exact absurd hexit (hwait _ hreaches v)
    · exact nomatch hr

theorem contents_addTransmit {s : SerialState} (hidle : s.transmit.IsEmpty) (data : U8) :
    (s.addTransmit data).transmit.contents = [data] := by
  have hempty := contents_of_idle hidle
  have hroom : ¬ s.transmit.IsFull := by
    rw [s.transmit.isFull_iff, hempty]
    decide
  rw [SerialState.addTransmit, serialFifoAdd_eq hroom, s.transmit.contents_push data hroom, hempty]
  rfl

theorem balanced_addTransmit {s : SerialState} {sent returned : List U8}
    (hidle : s.transmit.IsEmpty) (data : U8) (h : Balanced sent returned s) :
    Balanced (sent ++ [data]) returned (s.addTransmit data) := by
  refine ⟨h.handed, ?_, h.arrived⟩
  rw [contents_addTransmit hidle, ← h.sent, contents_of_idle hidle, List.append_nil]
  rfl

/-- The loop of `SerialWrite` before the byte at its index. -/
structure WriteInv (sent returned : List U8) (buffer : Nat → U8) (bufferSize : Uintn)
    (w : WriteLoop) : Prop where
  index : w.index.toNat ≤ bufferSize.toNat
  balanced : Balanced (sent ++ bytesOf buffer w.index.toNat) returned w.state
  idle : w.state.transmit.IsEmpty
  room : dev.softwareLoopbackEnable = true →
    w.state.receive.contents.length + (bufferSize.toNat - w.index.toNat) < SERIAL_MAX_FIFO_SIZE

variable {sent returned : List U8} {buffer : Nat → U8} {bufferSize timeout : Uintn}

theorem WriteInv.room_next {w : WriteLoop}
    (h : WriteInv dev sent returned buffer bufferSize w)
    (hmore : w.index.toNat < bufferSize.toNat) (data : U8)
    (hloopback : dev.softwareLoopbackEnable = true) : Room (w.state.addTransmit data) := by
  have hroom := h.room hloopback
  have hreceive : (w.state.addTransmit data).receive = w.state.receive := rfl
  rw [Room, contents_addTransmit h.idle, hreceive, List.length_singleton]
  omega

theorem writeBody_cases {w : WriteLoop} {step : Loop.Step WriteLoop TransferResult}
    (h : writeBody dev line fuel timeout buffer bufferSize w = some step) :
    (bufferSize.toNat ≤ w.index.toNat ∧ step = .exit ⟨.ok (), bufferSize, w.state⟩) ∨
      (w.index.toNat < bufferSize.toNat ∧ ∃ out t,
        PartialLoop.run (waitBody dev line fuel timeout) fuel
          (0, w.state.addTransmit (buffer w.index.toNat)) = some (out, t) ∧
        step = if out then .next ⟨w.index + 1, w.actualWrite + 1, t⟩
          else .exit ⟨.error .timeout, w.actualWrite, t⟩) := by
  rw [writeBody] at h
  split at h
  · next hmore =>
      rw [setWidth_lt_iff] at hmore
      obtain ⟨⟨out, t⟩, hwait, hrest⟩ := Option.bind_eq_some_iff.mp h
      refine .inr ⟨hmore, out, t, hwait, ?_⟩
      cases out <;> exact (Option.some.inj hrest).symm
  · next hdone =>
      rw [setWidth_lt_iff] at hdone
      exact .inl ⟨Nat.le_of_not_lt hdone, (Option.some.inj h).symm⟩

theorem WriteInv.next {w : WriteLoop} {t : SerialState} {actualWrite : Uintn}
    (h : WriteInv dev sent returned buffer bufferSize w)
    (hsize : bufferSize.toNat < 2 ^ 32) (hmore : w.index.toNat < bufferSize.toNat)
    (hmoved : Moved (w.state.addTransmit (buffer w.index.toNat)) t) (hidle : t.transmit.IsEmpty)
    (hlooped : dev.softwareLoopbackEnable = true →
      LoopedBack (w.state.addTransmit (buffer w.index.toNat)) t) :
    WriteInv dev sent returned buffer bufferSize ⟨w.index + 1, actualWrite, t⟩ := by
  have hindex := toNat_index_succ (Nat.lt_of_le_of_lt hmore hsize)
  refine ⟨hindex ▸ hmore, ?_, hidle, fun hloopback => ?_⟩
  · have hbalanced := hmoved.balanced (balanced_addTransmit h.idle _ h.balanced)
    rwa [List.append_assoc, ← bytesOf_succ, ← hindex] at hbalanced
  · have hroom := h.room hloopback
    have htotal := (hlooped hloopback).total
    have hreceive : (w.state.addTransmit (buffer w.index.toNat)).receive = w.state.receive := rfl
    rw [contents_addTransmit h.idle, contents_of_idle hidle, hreceive, List.length_nil,
      List.length_singleton] at htotal
    rw [hindex]
    dsimp only
    omega

theorem room_of_fits {x : SerialSession}
    (hfits : x.Fits dev line fuel (.write buffer bufferSize))
    (hloopback : dev.softwareLoopbackEnable = true) :
    x.state.receive.contents.length + bufferSize.toNat < SERIAL_MAX_FIFO_SIZE := by
  rw [SerialSession.Fits, if_pos hloopback] at hfits
  exact hfits

/-- Each wait of a write that fits succeeds. A write of 4 GiB and more has no invariant, as its
index wraps, but is none in loopback. -/
theorem wait_of_fits (hline : line.NoReceiveErrors) {x : SerialSession} {w : WriteLoop}
    {out : Bool} {t : SerialState} (hfits : x.Fits dev line fuel (.write buffer bufferSize))
    (htimeout : writeTimeout dev = some timeout)
    (hreaches : PartialLoop.Reaches (writeBody dev line fuel timeout buffer bufferSize)
      ⟨0, 0, x.state⟩ w)
    (hinv : bufferSize.toNat < 2 ^ 32 → WriteInv dev sent returned buffer bufferSize w)
    (hmore : w.index.toNat < bufferSize.toNat)
    (hwait : PartialLoop.run (waitBody dev line fuel timeout) fuel
      (0, w.state.addTransmit (buffer w.index.toNat)) = some (out, t)) :
    out = true ∧ Moved (w.state.addTransmit (buffer w.index.toNat)) t ∧ t.transmit.IsEmpty ∧
      (dev.softwareLoopbackEnable = true →
        LoopedBack (w.state.addTransmit (buffer w.index.toNat)) t) := by
  have hroom (hloopback : dev.softwareLoopbackEnable = true) :
      Room (w.state.addTransmit (buffer w.index.toNat)) := by
    have hfew := Nat.lt_of_le_of_lt (Nat.le_add_left _ _) (room_of_fits dev line hfits hloopback)
    have hsize := Nat.lt_trans hfew (by decide : SERIAL_MAX_FIFO_SIZE < 2 ^ 32)
    exact (hinv hsize).room_next dev hmore _ hloopback
  refine wait_spec dev line hline hroom ?_ hwait
  by_cases hloopback : dev.softwareLoopbackEnable = true
  · exact waitSucceeds_of_room dev line hline hloopback (hroom hloopback)
  · rw [SerialSession.Fits, if_neg hloopback] at hfits
    refine hfits timeout htimeout w hreaches ?_
    rwa [setWidth_lt_iff]

/-- A write that fits succeeds, reports all its bytes and hands them over. -/
theorem serialWrite_spec (hline : line.NoReceiveErrors) {x : SerialSession} {r : TransferResult}
    (hbalanced : Balanced sent returned x.state) (hidle : x.state.transmit.IsEmpty)
    (hfits : x.Fits dev line fuel (.write buffer bufferSize))
    (h : serialWrite dev line fuel buffer bufferSize x.state = some r) :
    r.status = .ok () ∧ r.bufferSize = bufferSize ∧
      Balanced (sent ++ bytesOf buffer bufferSize.toNat) returned r.state ∧
        r.state.transmit.IsEmpty := by
  rw [serialWrite] at h
  split at h
  · next hzero =>
      obtain rfl := Option.some.inj h
      rw [hzero]
      exact ⟨rfl, rfl, (List.append_nil sent).symm ▸ hbalanced, hidle⟩
  obtain ⟨timeout, htimeout, hrun⟩ := Option.bind_eq_some_iff.mp h
  have hstart : WriteInv dev sent returned buffer bufferSize ⟨0, 0, x.state⟩ :=
    ⟨Nat.zero_le _, (List.append_nil sent).symm ▸ hbalanced, hidle, room_of_fits dev line hfits⟩
  refine PartialLoop.run_spec_of_reaches
    (fun w => bufferSize.toNat < 2 ^ 32 → WriteInv dev sent returned buffer bufferSize w)
    (fun r => r.status = .ok () ∧ r.bufferSize = bufferSize ∧
      Balanced (sent ++ bytesOf buffer bufferSize.toNat) returned r.state ∧
        r.state.transmit.IsEmpty) ?_ ?_ (fun _ => hstart) hrun
  · intro w next hreaches hinv hnext hsize
    obtain ⟨-, hexit⟩ | ⟨hmore, out, t, hwait, hstep⟩ := writeBody_cases dev line hnext
    · exact nomatch hexit
    · obtain ⟨rfl, hmoved, hout, hlooped⟩ :=
        wait_of_fits dev line hline hfits htimeout hreaches hinv hmore hwait
      obtain rfl := Loop.Step.next.inj hstep
      exact (hinv hsize).next dev hsize hmore hmoved hout hlooped
  · intro w r hreaches hinv hexit
    obtain ⟨hdone, hr⟩ | ⟨hmore, out, t, hwait, hstep⟩ := writeBody_cases dev line hexit
    · obtain rfl := Loop.Step.exit.inj hr
      have hw := hinv (Nat.lt_of_le_of_lt hdone w.index.isLt)
      have hall := Nat.le_antisymm hw.index hdone
      exact ⟨rfl, rfl, hall ▸ hw.balanced, hw.idle⟩
    · obtain ⟨rfl, -⟩ := wait_of_fits dev line hline hfits htimeout hreaches hinv hmore hwait
      exact nomatch hstep

/-- Between the calls nothing waits to be transmitted, so a transfer only receives. -/
theorem receiveTransmit_idle (hline : line.NoReceiveErrors) {s t : SerialState}
    {status : EfiStatus} (hidle : s.transmit.IsEmpty)
    (h : serialReceiveTransmit dev line fuel s = some (status, t)) :
    status = .ok () ∧ Moved s t := by
  have hroom : Room s := by
    rw [Room, contents_of_idle hidle, List.length_nil, Nat.zero_add, s.receive.length_contents]
    exact s.receive.length_lt
  obtain ⟨hstatus, hmoved, -⟩ := receiveTransmit_spec dev line hline (fun _ => hroom) h
  exact ⟨hstatus, hmoved⟩

/-- The loop of `SerialRead` before the byte at its index. -/
structure ReadInv (sent returned : List U8) (bufferSize : Uintn) (r : ReadLoop) : Prop where
  index : r.index.toNat ≤ bufferSize.toNat
  balanced : Balanced sent (returned ++ bytesOf r.buffer r.index.toNat) r.state
  idle : r.state.transmit.IsEmpty

theorem readBody_cases (hline : line.NoReceiveErrors) {r : ReadLoop}
    {step : Loop.Step ReadLoop ReadResult} (hidle : r.state.transmit.IsEmpty)
    (h : readBody dev line fuel bufferSize r = some step) :
    (r.index.toNat < bufferSize.toNat ∧ ¬ r.state.receive.IsEmpty ∧
      step = .next ⟨r.index + 1, 0,
        Function.update r.buffer r.index.toNat (r.state.receive.data r.state.receive.head),
        { r.state with receive := r.state.receive.pop }⟩) ∨
      (r.index.toNat < bufferSize.toNat ∧
        step = .exit ⟨⟨.error .timeout, r.index.setWidth 64, r.state⟩, r.buffer⟩) ∨
      ∃ s, Moved r.state s ∧
        ((r.index.toNat < bufferSize.toNat ∧
            step = .next { r with
              elapsed := r.elapsed + TIMEOUT_STALL_INTERVAL
              state := s }) ∨
          (bufferSize.toNat ≤ r.index.toNat ∧
            step = .exit ⟨⟨.ok (), bufferSize, s⟩, r.buffer⟩)) := by
  rw [readBody] at h
  split at h
  · next hmore =>
      rw [setWidth_lt_iff] at hmore
      rw [serialFifoRemove] at h
      by_cases hempty : r.state.receive.IsEmpty
      · rw [if_pos hempty] at h
        dsimp only at h
        split at h
        · exact .inr (.inl ⟨hmore, (Option.some.inj h).symm⟩)
        · obtain ⟨⟨status, s⟩, hattempt, hrest⟩ := Option.bind_eq_some_iff.mp h
          obtain ⟨rfl, hmoved⟩ := receiveTransmit_idle dev line hline hidle hattempt
          exact .inr (.inr ⟨s, hmoved, .inl ⟨hmore, (Option.some.inj hrest).symm⟩⟩)
      · rw [if_neg hempty] at h
        exact .inl ⟨hmore, hempty, (Option.some.inj h).symm⟩
  · next hdone =>
      rw [setWidth_lt_iff] at hdone
      obtain ⟨⟨status, s⟩, hlast, hrest⟩ := Option.bind_eq_some_iff.mp h
      obtain ⟨-, hmoved⟩ := receiveTransmit_idle dev line hline hidle hlast
      exact .inr (.inr
        ⟨s, hmoved, .inr ⟨Nat.le_of_not_lt hdone, (Option.some.inj hrest).symm⟩⟩)

theorem ReadInv.take {r : ReadLoop} (h : ReadInv sent returned bufferSize r)
    (hmore : r.index.toNat < bufferSize.toNat) (hempty : ¬ r.state.receive.IsEmpty)
    (hwrap : r.index.toNat + 1 < 2 ^ 32) :
    ReadInv sent returned bufferSize ⟨r.index + 1, 0,
      Function.update r.buffer r.index.toNat (r.state.receive.data r.state.receive.head),
      { r.state with receive := r.state.receive.pop }⟩ := by
  have hindex := toNat_index_succ hwrap
  refine ⟨hindex ▸ hmore, ⟨h.balanced.handed, h.balanced.sent, ?_⟩, h.idle⟩
  dsimp only
  have harrived := h.balanced.arrived
  rw [r.state.receive.contents_pop hempty] at harrived
  rw [hindex, bytesOf_update, List.append_assoc, List.append_assoc, ← harrived, List.append_assoc]
  rfl

theorem serialRead_spec (hline : line.NoReceiveErrors) {x : SerialSession} {r : ReadResult}
    (hbalanced : Balanced sent returned x.state) (hidle : x.state.transmit.IsEmpty)
    (hfits : x.Fits dev line fuel (.read buffer bufferSize))
    (h : serialRead dev line fuel buffer bufferSize x.state = some r) :
    Balanced sent (returned ++ bytesOf r.buffer r.bufferSize.toNat) r.state ∧
      r.state.transmit.IsEmpty := by
  have hnothing {t : SerialState} {buffer : Nat → U8} (ht : Balanced sent returned t) :
      Balanced sent (returned ++ bytesOf buffer 0) t := by
    rwa [bytesOf_zero, List.append_nil]
  rw [serialRead] at h
  split at h
  · obtain rfl := Option.some.inj h
    exact ⟨hnothing hbalanced, hidle⟩
  obtain ⟨⟨status, s⟩, hfirst, hrun⟩ := Option.bind_eq_some_iff.mp h
  obtain ⟨rfl, hmoved⟩ := receiveTransmit_idle dev line hline hidle hfirst
  have hstart : ReadInv sent returned bufferSize ⟨0, 0, buffer, s⟩ :=
    ⟨Nat.zero_le _, hnothing (hmoved.balanced hbalanced), hmoved.idle hidle⟩
  refine PartialLoop.run_spec_of_reaches (ReadInv sent returned bufferSize)
    (fun r => Balanced sent (returned ++ bytesOf r.buffer r.bufferSize.toNat) r.state ∧
      r.state.transmit.IsEmpty) ?_ ?_ hstart hrun
  · intro r next hreaches hinv hnext
    obtain ⟨hmore, hempty, hstep⟩ | ⟨-, hstep⟩ | ⟨t, ht, ⟨-, hstep⟩ | ⟨-, hstep⟩⟩ :=
      readBody_cases dev line hline hinv.idle hnext
    · obtain rfl := Loop.Step.next.inj hstep
      have hlt := (setWidth_lt_iff r.index bufferSize).mpr hmore
      exact hinv.take hmore hempty (hfits _ s hfirst r hreaches hlt hempty)
    · exact nomatch hstep
    · obtain rfl := Loop.Step.next.inj hstep
      exact ⟨hinv.index, ht.balanced hinv.balanced, ht.idle hinv.idle⟩
    · exact nomatch hstep
  · intro r q hreaches hinv hexit
    obtain ⟨-, -, hstep⟩ | ⟨-, hstep⟩ | ⟨t, ht, ⟨-, hstep⟩ | ⟨hdone, hstep⟩⟩ :=
      readBody_cases dev line hline hinv.idle hexit
    · exact nomatch hstep
    · obtain rfl := Loop.Step.exit.inj hstep
      refine ⟨?_, hinv.idle⟩
      rw [toNat_setWidth_up]
      exact hinv.balanced
    · exact nomatch hstep
    · obtain rfl := Loop.Step.exit.inj hstep
      have hall := Nat.le_antisymm hinv.index hdone
      exact ⟨hall ▸ ht.balanced hinv.balanced, ht.idle hinv.idle⟩

theorem serialGetControl_spec (hline : line.NoReceiveErrors) {s t : SerialState} {control : U32}
    (hidle : s.transmit.IsEmpty)
    (h : serialGetControl dev line fuel s = some (control, t)) : Moved s t := by
  obtain ⟨⟨status, u⟩, htransfer, hout⟩ := Option.bind_eq_some_iff.mp h
  have hread : Moved s (s.readMsr line).2 := moved_readMsr line
  obtain ⟨-, hmoved⟩ := receiveTransmit_idle dev line hline (hread.idle hidle) htransfer
  obtain rfl := (Prod.mk.inj (Option.some.inj hout)).2
  exact hread.trans hmoved

end Calls

section Sessions

variable (dev : SerialDev) (line : SerialLine)

structure Settled (x : SerialSession) : Prop where
  balanced : Balanced x.reported x.returned x.state
  idle : x.state.transmit.IsEmpty

theorem settled_call (hline : line.NoReceiveErrors) {fuel : Nat} {x y : SerialSession}
    (c : SerialCall) (hx : Settled x) (hfits : x.Fits dev line fuel c)
    (h : x.call dev line fuel c = some y) : Settled y := by
  cases c with
  | write buffer bufferSize =>
      obtain ⟨r, hr, hy⟩ := Option.bind_eq_some_iff.mp h
      obtain rfl := Option.some.inj hy
      obtain ⟨-, hsize, hbalanced, hidle⟩ :=
        serialWrite_spec dev line hline hx.balanced hx.idle hfits hr
      exact ⟨hsize.symm ▸ hbalanced, hidle⟩
  | read buffer bufferSize =>
      obtain ⟨r, hr, hy⟩ := Option.bind_eq_some_iff.mp h
      obtain rfl := Option.some.inj hy
      obtain ⟨hbalanced, hidle⟩ := serialRead_spec dev line hline hx.balanced hx.idle hfits hr
      exact ⟨hbalanced, hidle⟩
  | getControl =>
      obtain ⟨⟨control, s⟩, hs, hy⟩ := Option.bind_eq_some_iff.mp h
      obtain rfl := Option.some.inj hy
      have hmoved := serialGetControl_spec dev line hline hx.idle hs
      exact ⟨hmoved.balanced hx.balanced, hmoved.idle hx.idle⟩

theorem settled_of_afterReset {x : SerialSession} (h : x.AfterReset) : Settled x := by
  obtain ⟨hrhead, hrtail, hthead, httail, htaken, hhanded, harrived, hreported, hreturned⟩ := h
  have hreceive : x.state.receive.contents = [] :=
    x.state.receive.isEmpty_iff.mp (hrhead.trans hrtail.symm)
  have hidle : x.state.transmit.IsEmpty := hthead.trans httail.symm
  refine ⟨⟨hhanded.trans htaken.symm, ?_, ?_⟩, hidle⟩
  · rw [htaken, contents_of_idle hidle, hreported]
    rfl
  · rw [hreturned, hreceive, harrived]
    rfl

theorem Settled.conserved {x : SerialSession} (h : Settled x) : x.Conserved := by
  have hsent := h.balanced.sent
  rw [contents_of_idle h.idle, List.append_nil] at hsent
  exact ⟨h.balanced.handed.trans hsent, h.balanced.handed.symm, h.balanced.arrived⟩

/-- In loopback, a write of no more bytes than the receive FIFO has room for fits. -/
theorem fits_write_of_loopback {fuel : Nat} (x : SerialSession) (buffer : Nat → U8)
    {bufferSize : Uintn} (hloopback : dev.softwareLoopbackEnable = true)
    (h : x.state.receive.contents.length + bufferSize.toNat < SERIAL_MAX_FIFO_SIZE) :
    x.Fits dev line fuel (.write buffer bufferSize) := by
  rw [SerialSession.Fits, if_pos hloopback]
  exact h

theorem fits_read {fuel : Nat} (x : SerialSession) (buffer : Nat → U8) {bufferSize : Uintn}
    (h : bufferSize.toNat < 2 ^ 32) : x.Fits dev line fuel (.read buffer bufferSize) := by
  intro status s _ r _ hmore _
  rw [setWidth_lt_iff] at hmore
  exact Nat.lt_of_le_of_lt hmore h

/-- In every session whose calls fit, no byte is lost, doubled or sent unreported. -/
theorem serialSession_conserved (hline : line.NoReceiveErrors) {x : SerialSession}
    (h : SerialSession.Reached dev line (fun fuel x => x.Fits dev line fuel) x) :
    x.Conserved := by
  suffices hsettled : Settled x from hsettled.conserved
  induction h with
  | reset hreset => exact settled_of_afterReset hreset
  | call c _ hfits hcall ih => exact settled_call dev line hline c ih hfits hcall

end Sessions

/-- A port at 115200 baud with its software loopback on. -/
def loopbackDev : SerialDev where
  clockRate := 1843200
  receiveFifoDepth := 16
  transmitFifoDepth := 16
  softwareLoopbackEnable := true
  hardwareFlowControl := false
  mode := ⟨1000000, 115200, 16, 8, NoParity, OneStopBit⟩
  uartDevicePath := ⟨115200, 8, 1, 1⟩
  installed := none

def quietLine : SerialLine := ⟨fun _ => 0, fun _ => 0, fun _ => 0, false⟩

def emptyFifo : SerialDevFifo := ⟨0, 0, fun _ => 0⟩

def resetSession : SerialSession :=
  ⟨⟨emptyFifo, emptyFifo, 0, 0, 0, 0, [], [], []⟩, [], []⟩

theorem quietLine_noReceiveErrors : quietLine.NoReceiveErrors :=
  fun _ _ _ => BitVec.getLsbD_zero

theorem afterReset_resetSession : resetSession.AfterReset :=
  ⟨rfl, rfl, rfl, rfl, rfl, rfl, rfl, rfl, rfl⟩

/-- Two bytes written in loopback are read back. -/
theorem loopbackSession_conserved :
    ∃ x : SerialSession, x.returned = [0, 1] ∧ x.Conserved := by
  have hrun : ((resetSession.call loopbackDev quietLine 4 (.write (BitVec.ofNat 8) 2)).bind fun y =>
      (y.call loopbackDev quietLine 4 (.read (fun _ => 0) 2)).map fun z => z.returned) =
        some [0, 1] := by decide
  obtain ⟨y, hy, hread⟩ := Option.bind_eq_some_iff.mp hrun
  obtain ⟨z, hz, hreturned⟩ := Option.map_eq_some_iff.mp hread
  have hfits : resetSession.Fits loopbackDev quietLine 4 (.write (BitVec.ofNat 8) 2) :=
    fits_write_of_loopback loopbackDev quietLine resetSession _ rfl (by decide)
  have hwritten : SerialSession.Reached loopbackDev quietLine
      (fun fuel x => x.Fits loopbackDev quietLine fuel) y :=
    .call _ (.reset afterReset_resetSession) hfits hy
  refine ⟨z, hreturned, serialSession_conserved loopbackDev quietLine quietLine_noReceiveErrors ?_⟩
  exact .call _ hwritten (fits_read loopbackDev quietLine y _ (by decide)) hz

/-- Seventeen bytes written in loopback are all reported, and the last one is dropped. -/
theorem loopbackOverflow_loses : quietLine.NoReceiveErrors ∧ ∃ x,
    SerialSession.Reached loopbackDev quietLine (fun _ _ _ => True) x ∧ ¬ x.Conserved := by
  refine ⟨quietLine_noReceiveErrors, ?_⟩
  have hrun : (resetSession.call loopbackDev quietLine 20 (.write (BitVec.ofNat 8) 17)).map
      (fun y => (y.state.handed.length, y.reported.length)) = some (16, 17) := by decide
  obtain ⟨y, hy, hlengths⟩ := Option.map_eq_some_iff.mp hrun
  refine ⟨y, .call _ (.reset afterReset_resetSession) trivial hy, fun hconserved => ?_⟩
  obtain ⟨hhanded, hreported⟩ := Prod.mk.inj hlengths
  rw [hconserved.handed, hreported] at hhanded
  exact absurd hhanded (by decide)

end FdtBusPkg
