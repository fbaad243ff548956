import TrtpNetwork.Library.SerialNumbers
import TrtpNetwork.Sender.Table

/-!
# The timer of the first packet

The packet in slot 0 is sent again when more than 500000 ticks have passed since its last stamp.
The comparison mixes two widths: a reading of `clock` has 64 bits, the stamp that keeps it has 32,
the 500000 is added in 32, and the sum is compared with a reading of 64 again.

The readings of an iteration are given here as they are (`Clocks`), and the iteration runs with what
the narrowing leaves of them.  `TimedSender` has beside the state what the sender does not keep: the
reading of the last stamp of each packet, and the retransmissions by the timer.
`fires_iff` is what the test decides: once the sum has wrapped, it is true at any later time.
`elapsed_of_run` says when the timer is right, exactly for each test and then for whole runs, and
`not_elapsed` shows it firing one tick after a stamp.
-/

namespace TrtpNetwork

variable (crc32 : List UInt8 → UInt32)

/-- The ticks a stamp is good for. -/
def timeoutTicks : ℕ := 500000

/-! ## The readings of the clock -/

/-- The readings of `clock` in one iteration, in the order in which they are taken. -/
structure Clocks where
  start : ℕ
  /-- After the loop over `nextseqnum` sent a packet, by its `nextseqnum`. -/
  send : ℕ → ℕ
  timer : ℕ
  resend : ℕ
  start_le : ∀ n, start ≤ send n
  send_le : ∀ n, send n ≤ timer
  timer_le : timer ≤ resend

theorem Clocks.start_le_timer (c : Clocks) : c.start ≤ c.timer :=
  (c.start_le 0).trans (c.send_le 0)

/-- The outside of one iteration, with its readings of `clock`. -/
abbrev TimedPoll := SenderPoll × Clocks

/-- What the iteration sees of it: the stamps are narrowed to 32 bits. -/
def timedPoll (d : TimedPoll) : SenderPoll :=
  { d.1 with
    clockSend := fun n => UInt32.ofNat (d.2.send n)
    clockTimer := d.2.timer
    clockResend := UInt32.ofNat d.2.resend }

/-! ## What is kept beside the state -/

/-- A retransmission by the timer: the packet, the reading that was tested and the new stamp. -/
structure TimerResend where
  position : ℕ
  timer : ℕ
  resend : ℕ
  deriving DecidableEq

/-- The sender, the reading of the last stamp of each packet that was sent or sent again by the
timer, these retransmissions, and a time that no reading so far exceeds. -/
structure TimedSender where
  sender : Sender
  stamp : ℕ → Option ℕ
  resent : List TimerResend
  now : ℕ

/-- The calls of `write` from `s` to `s'`. -/
def newWrites (s s' : Sender) : List Transmission := s'.written.drop s.written.length

/-- What a call of `write` does to the stamps: the loop over `nextseqnum`, which `k.1` counts, and
the timer stamp the packet, and the answer to a NACK does not. -/
def stampWrite (c : Clocks) (k : ℕ × (ℕ → Option ℕ)) (w : Transmission) :
    ℕ × (ℕ → Option ℕ) :=
  match w.cause with
  | .sendLoop => (k.1 + 1, Function.update k.2 w.position (some (c.send k.1)))
  | .nack => k
  | .timeout => (k.1, Function.update k.2 w.position (some c.resend))

/-- The stamps when the iteration has got to `a`. -/
def stampsAt (t : TimedSender) (c : Clocks) (a : Sender) : ℕ × (ℕ → Option ℕ) :=
  (newWrites t.sender a).foldl (stampWrite c) (t.sender.nextseqnum, t.stamp)

/-- The retransmissions by the timer from `s` to `s'`. -/
def timerWrites (c : Clocks) (s s' : Sender) : List TimerResend :=
  ((newWrites s s').filter fun w => w.cause = .timeout).map fun w =>
    ⟨w.position, c.timer, c.resend⟩

/-- What is kept when the iteration has come to its end in `s`. -/
def TimedSender.after (t : TimedSender) (c : Clocks) (s : Sender) : TimedSender where
  sender := s
  stamp := (stampsAt t c s).2
  resent := t.resent ++ timerWrites c t.sender s
  now := c.resend

/-- One iteration of the sender, with the stamps and the retransmissions. -/
def timedStep (t : TimedSender) (d : TimedPoll) : Option TimedSender :=
  (readWriteLoopSender crc32 t.sender (timedPoll d)).map (t.after d.2)

/-- The start, before anything is sent. -/
def TimedSender.start (s : Sender) : TimedSender where
  sender := s
  stamp := fun _ => none
  resent := []
  now := 0

/-- The clock does not go back between two iterations. -/
def ClockGoesOn (t : TimedSender) (d : TimedPoll) : Prop := t.now ≤ d.2.start

/-! ## What the timer is for -/

/-- The state in which the iteration gets to the test of the timer, if it does. -/
def beforeTimeout (s : Sender) (e : SenderPoll) : Option Sender :=
  if s.status = .running ∧ e.writable = .pollout then do
    let m ← senderReceive crc32 s e
    if m.status = .readFailed then none
    else do
      let a ← retransmitNack crc32 m
      if a.status = .absentLookup then none
      else do
        let b ← sendWindow crc32 a e
        if b.status = .absentLookup then none else some b
  else none

/-- From `b` to `s'` the timer sent the packet at position `p`. -/
def TimerSends (b s' : Sender) (p : ℕ) : Prop :=
  ∃ w ∈ newWrites b s', w.cause = .timeout ∧ w.position = p

/-- If the iteration gets to the test with a packet in slot 0 that was stamped at `t₁`, the packet
is sent if and only if more than 500000 ticks have passed since. -/
def MeasuresElapsed (t : TimedSender) (d : TimedPoll) : Prop :=
  ∀ b ∈ beforeTimeout crc32 t.sender (timedPoll d), ∀ p ∈ b.listPkt 0, b.packets p ≠ none →
    ∀ t₁ ∈ (stampsAt t d.2 b).2 p, ∃ s', resendTimeout crc32 b (timedPoll d) = some s' ∧
      (TimerSends b s' p ↔ timeoutTicks < d.2.timer - t₁)

/-- Any two retransmissions of one packet are more than 500000 ticks apart. -/
def Spaced (resent : List TimerResend) : Prop :=
  resent.Pairwise fun r r' => r.position = r'.position → timeoutTicks < r'.timer - r.resend

/-- If the iteration gets to the test with a packet in slot 0 that was stamped at `t₁`, the end of
its 500000 ticks fits in 32 bits, or it is past. -/
def StampFits (t : TimedSender) (d : TimedPoll) : Prop :=
  ∀ b ∈ beforeTimeout crc32 t.sender (timedPoll d), ∀ p ∈ b.listPkt 0, b.packets p ≠ none →
    ∀ t₁ ∈ (stampsAt t d.2 b).2 p, t₁ + timeoutTicks < 2 ^ 32 ∨ t₁ + timeoutTicks < d.2.timer

variable {crc32}

/-! ## The test -/

/-- **The test of the code.** -/
theorem fires_iff {t₁ t₂ : ℕ} (h : t₁ ≤ t₂) :
    (UInt32.ofNat t₁ + 500000).toNat < t₂ ↔
      2 ^ 32 ≤ t₁ + timeoutTicks ∨ t₁ + timeoutTicks < t₂ := by
  have hnarrow : (UInt32.ofNat t₁ + 500000).toNat = (t₁ + timeoutTicks) % 2 ^ 32 := by
    simp [timeoutTicks, UInt32.toNat_add]
  rw [hnarrow]
  exact mod_lt_iff (by decide) h

/-- It measures the time that has passed if and only if the sum fits, or the time is up. -/
theorem fires_iff_elapsed {t₁ t₂ : ℕ} (h : t₁ ≤ t₂) :
    ((UInt32.ofNat t₁ + 500000).toNat < t₂ ↔ timeoutTicks < t₂ - t₁) ↔
      t₁ + timeoutTicks < 2 ^ 32 ∨ t₁ + timeoutTicks < t₂ := by
  rw [fires_iff h]
  omega

/-! ## The stamps -/

variable {file : List UInt8} {t t' : TimedSender} {d : TimedPoll} {c : Clocks}
  {s s' a a' b m : Sender} {stamp : ℕ → Option ℕ} {now : ℕ}

/-- The stamps are those of packets that were made, none is later than `now`, and the heap has what
32 bits leave of them. -/
structure StampsHold (stamp : ℕ → Option ℕ) (now : ℕ) (s : Sender) : Prop where
  made : ∀ p t₁, stamp p = some t₁ → p < s.seqnum ∧ t₁ ≤ now
  held : ∀ p t₁ pkt, stamp p = some t₁ → s.packets p = some pkt →
    pkt.timestamp = UInt32.ofNat t₁

/-- Time goes on, packets are freed and new ones made. -/
theorem StampsHold.mono (h : StampsHold stamp now s) {now' : ℕ} (hnow : now ≤ now')
    (hseq : s.seqnum ≤ s'.seqnum)
    (hpackets : ∀ p < s.seqnum, ∀ pkt, s'.packets p = some pkt → s.packets p = some pkt) :
    StampsHold stamp now' s' where
  made := by
    intro p t₁ hp
    obtain ⟨hlt, hle⟩ := h.made p t₁ hp
    exact ⟨hlt.trans_le hseq, hle.trans hnow⟩
  held := by
    intro p t₁ pkt hp hpkt
    exact h.held p t₁ pkt hp (hpackets p (h.made p t₁ hp).1 pkt hpkt)

/-- **A packet is stamped.** -/
theorem StampsHold.update (h : StampsHold stamp now s) {p r : ℕ} {pkt : Pkt} (hp : p < s.seqnum)
    (hr : r ≤ now) (hseq : s'.seqnum = s.seqnum)
    (hpackets : s'.packets =
      Function.update s.packets p (some { pkt with timestamp := UInt32.ofNat r })) :
    StampsHold (Function.update stamp p (some r)) now s' where
  made := by
    intro q t₁ hq
    rw [hseq]
    rcases eq_some_of_update_some hq with ⟨rfl, rfl⟩ | ⟨-, hq⟩
    · exact ⟨hp, hr⟩
    · exact h.made q t₁ hq
  held := by
    intro q t₁ pkt' hq hpkt
    rw [hpackets] at hpkt
    rcases eq_some_of_update_some hq with ⟨rfl, rfl⟩ | ⟨hqp, hq⟩
    · rw [Function.update_self] at hpkt
      rw [← Option.some.inj hpkt]
    · rw [Function.update_of_ne hqp] at hpkt
      exact h.held q t₁ pkt' hq hpkt

/-- Every retransmission is followed by no earlier stamp of its packet than its own. -/
def Covers (stamp : ℕ → Option ℕ) (resent : List TimerResend) : Prop :=
  ∀ r ∈ resent, ∃ t₁, stamp r.position = some t₁ ∧ r.resend ≤ t₁

/-- A stamp is replaced by later ones only. -/
theorem exists_stamp_foldl {ws : List Transmission} {k : ℕ × (ℕ → Option ℕ)} {p x : ℕ}
    (hx : x ≤ c.start) (h : ∃ t₁, k.2 p = some t₁ ∧ x ≤ t₁) :
    ∃ t₁, (ws.foldl (stampWrite c) k).2 p = some t₁ ∧ x ≤ t₁ := by
  induction ws generalizing k with
  | nil => exact h
  | cons w ws ih =>
    refine ih ?_
    have hupdate : ∀ r, x ≤ r →
        ∃ t₁, Function.update k.2 w.position (some r) p = some t₁ ∧ x ≤ t₁ := by
      intro r hr
      by_cases hp : p = w.position
      · exact ⟨r, by rw [hp, Function.update_self], hr⟩
      · rwa [Function.update_of_ne hp]
    unfold stampWrite
    split
    · exact hupdate _ (hx.trans (c.start_le k.1))
    · exact h
    · exact hupdate _ (hx.trans (c.start_le_timer.trans c.timer_le))

/-! ## The calls of `write` of an iteration -/

theorem newWrites_snoc {w : Transmission} (h : s.written <+: a.written)
    (hw : a'.written = a.written ++ [w]) : newWrites s a' = newWrites s a ++ [w] := by
  rw [newWrites, hw, List.drop_append_of_le_length h.length_le]
  rfl

theorem newWrites_congr (hw : a'.written = a.written) : newWrites s a' = newWrites s a := by
  rw [newWrites, newWrites, hw]

theorem newWrites_of_eq (hw : a.written = s.written) : newWrites s a = [] := by
  rw [newWrites, hw, List.drop_length]

theorem stampsAt_snoc {w : Transmission} (h : t.sender.written <+: a.written)
    (hw : a'.written = a.written ++ [w]) :
    stampsAt t c a' = stampWrite c (stampsAt t c a) w := by
  rw [stampsAt, newWrites_snoc h hw, List.foldl_append]
  rfl

theorem stampsAt_congr (hw : a'.written = a.written) : stampsAt t c a' = stampsAt t c a := by
  rw [stampsAt, stampsAt, newWrites_congr hw]

/-- The invariant of an iteration up to the test of the timer. -/
structure Tracked (crc32 : List UInt8 → UInt32) (file : List UInt8) (t : TimedSender) (c : Clocks)
    (a : Sender) : Prop where
  genuine : Genuine crc32 file a
  grown : t.sender.written <+: a.written
  quiet : ∀ w ∈ newWrites t.sender a, w.cause ≠ .timeout
  holds : StampsHold (stampsAt t c a).2 c.timer a

/-- The invariant up to the end of the loop over `nextseqnum`, with the count of its turns. -/
structure Counted (crc32 : List UInt8 → UInt32) (file : List UInt8) (t : TimedSender) (c : Clocks)
    (a : Sender) : Prop extends Tracked crc32 file t c a where
  next : (stampsAt t c a).1 = a.nextseqnum

/-- Nothing is written and the heap stays as it is. -/
theorem Tracked.same (h : Tracked crc32 file t c a) (hgen : Genuine crc32 file a')
    (hw : a'.written = a.written) (hseq : a'.seqnum = a.seqnum)
    (hpackets : a'.packets = a.packets) : Tracked crc32 file t c a' where
  genuine := hgen
  grown := by
    rw [hw]
    exact h.grown
  quiet := by
    rw [newWrites_congr hw]
    exact h.quiet
  holds := by
    rw [stampsAt_congr hw]
    exact h.holds.mono (Nat.le_refl _) (Nat.le_of_eq hseq.symm) fun p _ pkt hpkt =>
      hpackets ▸ hpkt

/-! ## Up to the test -/

/-- The invariant between iterations. -/
structure Timely (crc32 : List UInt8 → UInt32) (file : List UInt8) (t : TimedSender) : Prop where
  genuine : Genuine crc32 file t.sender
  holds : StampsHold t.stamp t.now t.sender
  covers : Covers t.stamp t.resent

theorem stampsAt_of_eq (hw : a.written = t.sender.written) :
    stampsAt t c a = (t.sender.nextseqnum, t.stamp) := by
  rw [stampsAt, newWrites_of_eq hw]
  rfl

/-- Nothing is written yet. -/
theorem Timely.counted (h : Timely crc32 file t) (hnow : t.now ≤ c.start)
    (hgen : Genuine crc32 file a) (hw : a.written = t.sender.written)
    (hnext : a.nextseqnum = t.sender.nextseqnum) (hseq : t.sender.seqnum ≤ a.seqnum)
    (hpackets : ∀ p < t.sender.seqnum, ∀ pkt, a.packets p = some pkt →
      t.sender.packets p = some pkt) : Counted crc32 file t c a where
  genuine := hgen
  grown := by rw [hw]
  quiet := by
    rw [newWrites_of_eq hw]
    simp
  holds := by
    rw [stampsAt_of_eq hw]
    exact h.holds.mono (hnow.trans c.start_le_timer) hseq hpackets
  next := by
    rw [stampsAt_of_eq hw, hnext]

theorem nextseqnum_senderReceive {e : SenderPoll} (h : senderReceive crc32 s e = some m) :
    m.nextseqnum = s.nextseqnum := by
  rcases senderReceive_cases crc32 h with ⟨-, hf⟩ | ⟨ack, -, hack⟩
  · exact hf.nextseqnum
  · obtain ⟨-, hnext, -⟩ := handleAck_frame crc32 hack
    exact hnext

theorem Timely.counted_senderReceive (h : Timely crc32 file t) (hnow : ClockGoesOn t d)
    (hm : senderReceive crc32 t.sender (timedPoll d) = some m) : Counted crc32 file t d.2 m :=
  h.counted hnow (h.genuine.senderReceive hm) (written_senderReceive crc32 hm)
    (nextseqnum_senderReceive hm) (seqnum_le_senderReceive crc32 hm)
    fun _ hp _ hpkt => packets_senderReceive crc32 hm hp hpkt

/-- A packet is written, and not by the timer. -/
theorem Counted.write (h : Counted crc32 file t c a) {w : Transmission}
    (hgen : Genuine crc32 file a') (hw : a'.written = a.written ++ [w])
    (hcause : w.cause ≠ .timeout)
    (hholds : StampsHold (stampWrite c (stampsAt t c a) w).2 c.timer a')
    (hnext : (stampWrite c (stampsAt t c a) w).1 = a'.nextseqnum) : Counted crc32 file t c a' where
  genuine := hgen
  grown := by
    rw [hw]
    exact h.grown.trans (List.prefix_append _ _)
  quiet := by
    rw [newWrites_snoc h.grown hw]
    intro v hv
    rcases List.mem_append.mp hv with hv | hv
    · exact h.quiet v hv
    · rwa [List.mem_singleton.mp hv]
  holds := by rwa [stampsAt_snoc h.grown hw]
  next := by rwa [stampsAt_snoc h.grown hw]

theorem Counted.retransmitNack (h : Counted crc32 file t c a)
    (hnack : retransmitNack crc32 a = some a') : Counted crc32 file t c a' := by
  have hgen := h.genuine.retransmitNack hnack
  rcases retransmitNack_cases crc32 hnack with rfl | rfl | ⟨i, p, pkt, payload, -, -, -, rfl⟩
  · exact h
  · exact ⟨h.toTracked.same hgen rfl rfl rfl, h.next⟩
  · refine h.write hgen rfl (fun hc => by cases hc) ?_ h.next
    exact h.holds.mono (Nat.le_refl _) (Nat.le_refl _) fun _ _ _ hpkt => hpkt

/-- **A turn of the loop over `nextseqnum`** stamps the packet it sends with its own reading. -/
theorem Counted.sendNext (h : Counted crc32 file t d.2 a)
    (hnext : sendNext crc32 (timedPoll d) a = some a') : Counted crc32 file t d.2 a' := by
  have hgen := h.genuine.sendNext hnext
  rcases sendNext_cases crc32 hnext with ⟨-, rfl⟩ | ⟨i, p, pkt, payload, -, -, hpkt, -, -, rfl⟩
  · exact ⟨h.toTracked.same hgen rfl rfl rfl, h.next⟩
  · refine h.write hgen rfl (fun hc => by cases hc) ?_ (congrArg (· + 1) h.next)
    show StampsHold (Function.update (stampsAt t d.2 a).2 p
      (some (d.2.send (stampsAt t d.2 a).1))) _ _
    rw [h.next]
    exact h.holds.update (h.genuine.packet p pkt hpkt).1 (d.2.send_le _) rfl rfl

theorem Counted.sendWindow (h : Counted crc32 file t d.2 a)
    (hsend : sendWindow crc32 a (timedPoll d) = some a') : Tracked crc32 file t d.2 a' := by
  rcases sendWindow_cases crc32 hsend with ⟨-, rfl⟩ | ⟨-, m, hm, hm'⟩
  · exact h.toTracked
  · have hcounted : Counted crc32 file t d.2 m :=
      sendLoop_rule crc32 (fun x y hx _ hy => hx.sendNext hy) h hm
    rcases hm' with ⟨-, rfl⟩ | ⟨-, rfl⟩
    · exact hcounted.toTracked
    · exact hcounted.toTracked.same (hcounted.genuine.mono rfl rfl rfl fun _ _ hq => hq) rfl rfl rfl

/-- An iteration ends before the test of the timer, or with it. -/
theorem readWriteLoopSender_timer {e : SenderPoll} (h : readWriteLoopSender crc32 s e = some s') :
    s' = s ∨ senderReceive crc32 s e = some s' ∨
      (∃ m, senderReceive crc32 s e = some m ∧ (retransmitNack crc32 m = some s' ∨
        ∃ a, retransmitNack crc32 m = some a ∧ sendWindow crc32 a e = some s')) ∨
      ∃ b, beforeTimeout crc32 s e = some b ∧ resendTimeout crc32 b e = some s' := by
  rcases readWriteLoopSender_cases crc32 h with
    ⟨-, rfl⟩ | ⟨hrunning, m, hm, ⟨-, rfl⟩ | ⟨hread, hreply⟩⟩
  · exact Or.inl rfl
  · exact Or.inr (Or.inl hm)
  rcases senderReply_cases crc32 hreply with
    ⟨-, rfl⟩ | ⟨hout, a, ha, ⟨-, rfl⟩ | ⟨hfound, b, hb, ⟨-, rfl⟩ | ⟨hsent, htest⟩⟩⟩
  · exact Or.inr (Or.inl hm)
  · exact Or.inr (Or.inr (Or.inl ⟨m, hm, Or.inl ha⟩))
  · exact Or.inr (Or.inr (Or.inl ⟨m, hm, Or.inr ⟨a, ha, hb⟩⟩))
  · refine Or.inr (Or.inr (Or.inr ⟨b, ?_, htest⟩))
    simp [beforeTimeout, hrunning, hout, hm, hread, ha, hfound, hb, hsent]

theorem beforeTimeout_cases {e : SenderPoll} (h : beforeTimeout crc32 s e = some b) :
    ∃ m a, senderReceive crc32 s e = some m ∧ retransmitNack crc32 m = some a ∧
      sendWindow crc32 a e = some b := by
  unfold beforeTimeout at h
  split at h
  · obtain ⟨m, hm, h⟩ := Option.bind_eq_some_iff.mp h
    split at h
    · cases h
    · obtain ⟨a, ha, h⟩ := Option.bind_eq_some_iff.mp h
      split at h
      · cases h
      · obtain ⟨b', hb, h⟩ := Option.bind_eq_some_iff.mp h
        split at h
        · cases h
        · obtain rfl := Option.some.inj h
          exact ⟨m, a, hm, ha, hb⟩
  · cases h

theorem Timely.tracked_beforeTimeout (h : Timely crc32 file t) (hnow : ClockGoesOn t d)
    (hb : beforeTimeout crc32 t.sender (timedPoll d) = some b) : Tracked crc32 file t d.2 b := by
  obtain ⟨m, a, hm, ha, hb⟩ := beforeTimeout_cases hb
  exact ((h.counted_senderReceive hnow hm).retransmitNack ha).sendWindow hb

/-- **An iteration** is tracked to its end, or gets to the test. -/
theorem Timely.tracked_or (h : Timely crc32 file t) (hnow : ClockGoesOn t d)
    (hstep : readWriteLoopSender crc32 t.sender (timedPoll d) = some s') :
    Tracked crc32 file t d.2 s' ∨ ∃ b, beforeTimeout crc32 t.sender (timedPoll d) = some b ∧
      resendTimeout crc32 b (timedPoll d) = some s' := by
  rcases readWriteLoopSender_timer hstep with rfl | hm | ⟨m, hm, ha | ⟨a, ha, hb⟩⟩ | htest
  · exact Or.inl (h.counted hnow h.genuine rfl rfl (Nat.le_refl _) fun _ _ _ hpkt => hpkt).toTracked
  · exact Or.inl (h.counted_senderReceive hnow hm).toTracked
  · exact Or.inl ((h.counted_senderReceive hnow hm).retransmitNack ha).toTracked
  · exact Or.inl (((h.counted_senderReceive hnow hm).retransmitNack ha).sendWindow hb)
  · exact Or.inr htest

/-! ## The test, and the end of the iteration -/

/-- The packet is sent if the test says so. -/
theorem timerSends_iff {e : SenderPoll} {p : ℕ} {pkt : Pkt} (hp : b.listPkt 0 = some p)
    (hpkt : b.packets p = some pkt) (h : resendTimeout crc32 b e = some s') :
    TimerSends b s' p ↔ (pkt.timestamp + 500000).toNat < e.clockTimer := by
  rw [resendTimeout_eq crc32 hp, hpkt, Option.bind_some] at h
  split at h
  · next hlate =>
    refine iff_of_true ?_ hlate
    obtain ⟨a, ha, h⟩ := Option.bind_eq_some_iff.mp h
    obtain ⟨q, pkt₁, -, -, rfl⟩ := setTimestampAt_cases ha
    obtain ⟨r, pkt₂, payload, hr, -, -, rfl⟩ := transmit_cases crc32 h
    obtain rfl := Option.some.inj (hp.symm.trans hr)
    rw [TimerSends, newWrites_snoc (List.prefix_refl b.written) rfl]
    exact ⟨_, List.mem_append_right _ (List.mem_singleton_self _), rfl, rfl⟩
  · next hearly =>
    obtain rfl := Option.some.inj h
    refine iff_of_false ?_ hearly
    rintro ⟨w, hw, -⟩
    rw [newWrites_of_eq rfl] at hw
    cases hw

/-- **The test of the timer** in a state that is tracked. -/
theorem Tracked.exists_timerSends (h : Tracked crc32 file t d.2 b) {p t₁ : ℕ}
    (hp : b.listPkt 0 = some p) (hpkt : b.packets p ≠ none)
    (hstamp : (stampsAt t d.2 b).2 p = some t₁) :
    ∃ s', resendTimeout crc32 b (timedPoll d) = some s' ∧
      ((TimerSends b s' p ↔ timeoutTicks < d.2.timer - t₁) ↔
        t₁ + timeoutTicks < 2 ^ 32 ∨ t₁ + timeoutTicks < d.2.timer) := by
  obtain ⟨pkt, hpkt⟩ := Option.ne_none_iff_exists'.mp hpkt
  have hcontent := (h.genuine.packet p pkt hpkt).2.1.2.2
  obtain ⟨s', hs'⟩ := exists_resendTimeout crc32 (e := timedPoll d) hp hpkt hcontent
  refine ⟨s', hs', ?_⟩
  rw [timerSends_iff hp hpkt hs', h.holds.held p t₁ pkt hstamp hpkt]
  exact fires_iff_elapsed (h.holds.made p t₁ hstamp).2

/-- **When a test of the timer measures the time that has passed.** -/
theorem Timely.measuresElapsed_iff (h : Timely crc32 file t) (hnow : ClockGoesOn t d) :
    MeasuresElapsed crc32 t d ↔ StampFits crc32 t d := by
  constructor
  · intro hmeasures b hb p hp hpkt t₁ ht₁
    obtain ⟨s', hs', hiff⟩ :=
      (h.tracked_beforeTimeout hnow hb).exists_timerSends hp hpkt ht₁
    obtain ⟨r, hr, hsends⟩ := hmeasures b hb p hp hpkt t₁ ht₁
    obtain rfl := Option.some.inj (hs'.symm.trans hr)
    exact hiff.mp hsends
  · intro hfits b hb p hp hpkt t₁ ht₁
    obtain ⟨s', hs', hiff⟩ :=
      (h.tracked_beforeTimeout hnow hb).exists_timerSends hp hpkt ht₁
    exact ⟨s', hs', hiff.mpr (hfits b hb p hp hpkt t₁ ht₁)⟩

theorem Timely.covers_stampsAt (h : Timely crc32 file t) (hnow : t.now ≤ c.start) (a : Sender) :
    Covers (stampsAt t c a).2 t.resent := by
  intro r hr
  obtain ⟨t₁, ht₁, hle⟩ := h.covers r hr
  have hpast : r.resend ≤ c.start := (hle.trans (h.holds.made _ t₁ ht₁).2).trans hnow
  exact exists_stamp_foldl hpast ⟨t₁, ht₁, hle⟩

theorem Tracked.timerWrites_eq_nil (h : Tracked crc32 file t c a) :
    timerWrites c t.sender a = [] := by
  rw [timerWrites, List.map_eq_nil_iff, List.filter_eq_nil_iff]
  intro w hw hcause
  exact h.quiet w hw (of_decide_eq_true hcause)

/-- The end of an iteration in which the timer sent nothing. -/
theorem Tracked.after (h : Tracked crc32 file t c s') (ht : Timely crc32 file t)
    (hnow : t.now ≤ c.start) :
    Timely crc32 file (t.after c s') ∧ (t.after c s').resent = t.resent := by
  have hresent : (t.after c s').resent = t.resent := by
    rw [TimedSender.after, h.timerWrites_eq_nil, List.append_nil]
  refine ⟨⟨h.genuine, ?_, ?_⟩, hresent⟩
  · exact h.holds.mono c.timer_le (Nat.le_refl _) fun _ _ _ hpkt => hpkt
  · rw [hresent]
    exact ht.covers_stampsAt hnow s'

/-- The end of an iteration in which the timer sent the packet at position `p`. -/
theorem Tracked.after_timeout (h : Tracked crc32 file t c b) (ht : Timely crc32 file t)
    (hnow : t.now ≤ c.start) {p : ℕ} {pkt : Pkt} {w : Transmission}
    (hgen : Genuine crc32 file s') (hpkt : b.packets p = some pkt)
    (hw : s'.written = b.written ++ [w]) (hcause : w.cause = .timeout) (hpos : w.position = p)
    (hseq : s'.seqnum = b.seqnum) (hpackets : s'.packets =
      Function.update b.packets p (some { pkt with timestamp := UInt32.ofNat c.resend })) :
    Timely crc32 file (t.after c s') ∧
      (t.after c s').resent = t.resent ++ [⟨p, c.timer, c.resend⟩] := by
  have hstamps : (stampsAt t c s').2 =
      Function.update (stampsAt t c b).2 p (some c.resend) := by
    rw [stampsAt_snoc h.grown hw, stampWrite, hcause, hpos]
  have hresent : (t.after c s').resent = t.resent ++ [⟨p, c.timer, c.resend⟩] := by
    have hnone := h.timerWrites_eq_nil
    rw [timerWrites] at hnone
    rw [TimedSender.after, timerWrites, newWrites_snoc h.grown hw, List.filter_append,
      List.map_append, hnone]
    simp [hcause, hpos]
  refine ⟨⟨hgen, ?_, ?_⟩, hresent⟩
  · show StampsHold (stampsAt t c s').2 c.resend s'
    rw [hstamps]
    have hlater : StampsHold (stampsAt t c b).2 c.resend b :=
      h.holds.mono c.timer_le (Nat.le_refl _) fun _ _ _ hpkt => hpkt
    exact hlater.update (h.genuine.packet p pkt hpkt).1 (Nat.le_refl _) hseq hpackets
  · rw [hresent]
    intro r hr
    rcases List.mem_append.mp hr with hr | hr
    · exact ht.covers_stampsAt hnow s' r hr
    · obtain rfl := List.mem_singleton.mp hr
      refine ⟨c.resend, ?_, Nat.le_refl _⟩
      show (stampsAt t c s').2 p = some c.resend
      rw [hstamps, Function.update_self]

/-- **One iteration.**  If the test, in case there is one, fits in 32 bits, a retransmission is more
than 500000 ticks after those before it. -/
theorem Timely.step (h : Timely crc32 file t) (hnow : ClockGoesOn t d)
    (hstep : timedStep crc32 t d = some t') :
    Timely crc32 file t' ∧ (StampFits crc32 t d → Spaced t.resent → Spaced t'.resent) := by
  obtain ⟨s', hs', rfl⟩ := Option.map_eq_some_iff.mp hstep
  have hquiet : Tracked crc32 file t d.2 s' → Timely crc32 file (t.after d.2 s') ∧
      (StampFits crc32 t d → Spaced t.resent → Spaced (t.after d.2 s').resent) := by
    intro htracked
    obtain ⟨htimely, hresent⟩ := htracked.after h hnow
    rw [hresent]
    exact ⟨htimely, fun _ hspaced => hspaced⟩
  rcases h.tracked_or hnow hs' with htracked | ⟨b, hb, htest⟩
  · exact hquiet htracked
  have htracked := h.tracked_beforeTimeout hnow hb
  have hgen := htracked.genuine.resendTimeout htest
  rcases resendTimeout_cases crc32 htest with rfl | ⟨p, pkt, payload, hp, hpkt, hlate, -, rfl⟩
  · exact hquiet htracked
  obtain ⟨htimely, hresent⟩ := htracked.after_timeout h hnow hgen hpkt rfl rfl rfl rfl rfl
  refine ⟨htimely, fun hfits hspaced => ?_⟩
  rw [hresent, Spaced, List.pairwise_append]
  refine ⟨hspaced, List.pairwise_singleton _ _, fun r hr r' hr' hpos => ?_⟩
  obtain rfl := List.mem_singleton.mp hr'
  -- the packet was stamped no earlier than it was sent again before
  obtain ⟨t₁, ht₁, hle⟩ := h.covers_stampsAt hnow b r hr
  rw [hpos] at ht₁
  have hpassed : (pkt.timestamp + 500000).toNat < d.2.timer := hlate
  rw [htracked.holds.held p t₁ pkt ht₁ hpkt] at hpassed
  have hfit := hfits b hb p hp (by rw [hpkt]; simp) t₁ ht₁
  have helapsed := ((fires_iff_elapsed (htracked.holds.made p t₁ ht₁).2).mpr hfit).mp hpassed
  show timeoutTicks < d.2.timer - r.resend
  omega

/-! ## Runs -/

theorem timely_start (hgen : Genuine crc32 file s) :
    Timely crc32 file (TimedSender.start s) where
  genuine := hgen
  holds := by
    constructor
    · intro p t₁ hp
      cases hp
    · intro p t₁ pkt hp
      cases hp
  covers := by
    intro r hr
    cases hr

theorem timely_of_run (hgen : Genuine crc32 file s) {ds : List TimedPoll}
    (hrun : Run (timedStep crc32) (fun _ t d => ClockGoesOn t d) (TimedSender.start s) ds t) :
    Timely crc32 file t := by
  refine hrun.invariant (I := fun _ t => Timely crc32 file t) (timely_start hgen) ?_
  intro ds t d t' h hnow hstep
  exact (h.step hnow hstep).1

/-- **When the timer measures elapsed time.**  For every file, whatever is read, with a clock that
does not go back: from every state of every run, a test of the timer is right if and only if the end
of the 500000 ticks fits in 32 bits or is past, and in the runs whose tests are all like this, any
two retransmissions of a packet by the timer are more than 500000 ticks apart. -/
theorem elapsed_of_run (crc32 : List UInt8 → UInt32) (file : List UInt8) (buffer : Memory)
    (freshAck : Pkt) (clockAck : UInt32) (fill : FillInputs) (s₀ : Sender)
    (hinit : Sender.init crc32 file buffer freshAck clockAck fill = some s₀) :
    (∀ (ds : List TimedPoll) (t : TimedSender),
      Run (timedStep crc32) (fun _ t d => ClockGoesOn t d) (TimedSender.start s₀) ds t →
      ∀ d, ClockGoesOn t d → (MeasuresElapsed crc32 t d ↔ StampFits crc32 t d)) ∧
    ∀ (ds : List TimedPoll) (t : TimedSender),
      Run (timedStep crc32) (fun _ t d => ClockGoesOn t d ∧ StampFits crc32 t d)
        (TimedSender.start s₀) ds t → Spaced t.resent := by
  obtain ⟨hgen, -⟩ := starts_of_init hinit
  refine ⟨fun ds t hrun d hnow => (timely_of_run hgen hrun).measuresElapsed_iff hnow, ?_⟩
  intro ds t hrun
  have hinv : Timely crc32 file t ∧ Spaced t.resent := by
    refine hrun.invariant (I := fun _ t => Timely crc32 file t ∧ Spaced t.resent)
      ⟨timely_start hgen, List.Pairwise.nil⟩ ?_
    rintro ds t d t' ⟨htimely, hspaced⟩ ⟨hnow, hfits⟩ hstep
    obtain ⟨htimely', hspaced'⟩ := htimely.step hnow hstep
    exact ⟨htimely', hspaced' hfits hspaced⟩
  exact hinv.2

instance (t : TimedSender) (d : TimedPoll) : Decidable (ClockGoesOn t d) := by
  unfold ClockGoesOn
  infer_instance

instance (t : TimedSender) (d : TimedPoll) : Decidable (StampFits crc32 t d) := by
  unfold StampFits
  infer_instance

/-- Readings that are all taken in one tick. -/
def clocksAt (now : ℕ) : Clocks where
  start := now
  send := fun _ => now
  timer := now
  resend := now
  start_le := fun _ => Nat.le_refl now
  send_le := fun _ => Nat.le_refl now
  timer_le := Nat.le_refl now

/-- Packet 0 is sent at tick 0 and again when its time is up, and once more after that. -/
theorem elapsed_twice :
    ∃ t : TimedSender, t.resent.map TimerResend.position = [0, 0] ∧ Spaced t.resent ∧
      MeasuresElapsed zlibCrc32 t (writePoll, clocksAt 1000002) := by
  obtain ⟨t, hrun, hview⟩ := exists_run_of_follow (timedStep zlibCrc32)
    (fun _ t d => ClockGoesOn t d ∧ StampFits zlibCrc32 t d) (TimedSender.start (startSender []))
    [(writePoll, clocksAt 0), (writePoll, clocksAt 500000), (writePoll, clocksAt 500001),
      (writePoll, clocksAt 1000001), (writePoll, clocksAt 1000002)]
    (fun t => (t.resent.map TimerResend.position,
      decide (ClockGoesOn t (writePoll, clocksAt 1000002) ∧
        StampFits zlibCrc32 t (writePoll, clocksAt 1000002))))
    (show _ = some ([0, 0], true) by decide +kernel)
  obtain ⟨hpositions, hcond⟩ := Prod.mk.inj hview
  obtain ⟨hnow, hfits⟩ := of_decide_eq_true hcond
  obtain ⟨hright, hspaced⟩ := elapsed_of_run zlibCrc32 [] (fun _ => 0) blankPkt 0 blankFill
    (startSender []) (init_startSender [])
  exact ⟨t, hpositions, hspaced _ t hrun,
    (hright _ t (hrun.mono fun _ _ _ hok => hok.1) _ hnow).mpr hfits⟩

/-- The runs of the sender of an empty file with a clock that does not go back. -/
def ClockRun (ds : List TimedPoll) (t : TimedSender) : Prop :=
  Run (timedStep zlibCrc32) (fun _ t d => ClockGoesOn t d) (TimedSender.start (startSender [])) ds t

/-- **From `2 ^ 32` ticks on the timer is always up.**  Packet 0 is sent at this time, again in the
same tick, and once more one tick later. -/
theorem not_elapsed :
    (¬ ∀ ds t, ClockRun ds t → ∀ d, ClockGoesOn t d → MeasuresElapsed zlibCrc32 t d) ∧
      ¬ ∀ ds t, ClockRun ds t → Spaced t.resent := by
  constructor
  · intro h
    obtain ⟨hgen, -⟩ := starts_of_init (init_startSender [])
    have hright := h [] _ Run.nil (writePoll, clocksAt (2 ^ 32)) (Nat.zero_le _)
    rw [(timely_start hgen).measuresElapsed_iff (Nat.zero_le _)] at hright
    revert hright
    decide +kernel
  · intro h
    obtain ⟨t, hrun, hview⟩ := exists_run_of_follow (timedStep zlibCrc32)
      (fun _ t d => ClockGoesOn t d) (TimedSender.start (startSender []))
      [(writePoll, clocksAt (2 ^ 32)), (writePoll, clocksAt (2 ^ 32 + 1))] TimedSender.resent
      (show _ = some [⟨0, 2 ^ 32, 2 ^ 32⟩, ⟨0, 2 ^ 32 + 1, 2 ^ 32 + 1⟩] by decide +kernel)
    have hspaced := h _ t hrun
    rw [hview, Spaced, List.pairwise_pair] at hspaced
    exact absurd (hspaced rfl) (by decide)

end TrtpNetwork
