import TrtpNetwork.Library.SerialNumbers
import TrtpNetwork.Sender.Lockstep
import TrtpNetwork.Sender.Table

/-!
# The window law of the sender

The loop over `nextseqnum` sends the packets of the stream one after the other, and none that is
`window` or more positions past `base`.  `WindowLaw` says so about the calls of `write` the loop
made, each of which is recorded with the `base` and the `window` of its moment; the number `base`
is read as the stream position closest to the packet.

`nextseqnum` and `base` are kept modulo 256, and the loop compares them as they are.  Where `base`
is not above `nextseqnum` that is right, because then both are in one round of the numbers
(`Paced.sendLoop`).  Where it is above, `nextseqnum` has wrapped and `base` has not: the loop runs
through the whole round.  The test `nextseqnum != 0` is meant to prevent this and only does when the
pass ends exactly at the wrap.  `windowLaw_of_run` is the result for runs whose passes start in
order (`PassInOrder`), and `not_windowLaw` a run of ACKs in order, in one iteration of which the
socket is not writable.
-/

namespace TrtpNetwork

/-- The positions of the packets sent by the loop over `nextseqnum`. -/
def loopPositions (s : Sender) : List ℕ :=
  (s.written.filter fun w => w.cause = .sendLoop).map Transmission.position

/-- The loop over `nextseqnum` sent every packet once and in order, and below `base + window`. -/
structure WindowLaw (s : Sender) : Prop where
  inOrder : loopPositions s = List.range (loopPositions s).length
  below : ∀ w ∈ s.written, w.cause = .sendLoop →
    ∃ b, Unwraps 256 w.position w.base b ∧ w.position < b + w.window

/-- The state before a pass: if it may send, `base` is not above `nextseqnum`, and the packets that
left the table were sent by the loop before. -/
def PassInOrder (s : Sender) : Prop :=
  MaySend s → s.base ≤ s.nextseqnum ∧ s.seqnum ≤ (loopPositions s).length + tableSize

variable (crc32 : List UInt8 → UInt32)

/-- If the iteration makes a pass, it starts in order. -/
def PassesInOrder (s : Sender) (e : SenderPoll) : Prop :=
  e.writable = .pollout → ∀ m ∈ senderReceive crc32 s e, m.bufferUpdate = true → PassInOrder m

variable {crc32} {file : List UInt8} {s s' : Sender}

theorem loopPositions_snoc {w : Transmission} (h : s'.written = s.written ++ [w]) :
    loopPositions s' =
      loopPositions s ++ if w.cause = .sendLoop then [w.position] else [] := by
  unfold loopPositions
  rw [h]
  by_cases hw : w.cause = .sendLoop <;> simp [hw]

/-- A packet that is sent on another account. -/
theorem loopPositions_of_cause {w : Transmission} (h : s'.written = s.written ++ [w])
    (hcause : w.cause ≠ .sendLoop) : loopPositions s' = loopPositions s := by
  rw [loopPositions_snoc h, if_neg hcause, List.append_nil]

theorem loopPositions_congr (h : s'.written = s.written) : loopPositions s' = loopPositions s := by
  rw [loopPositions, loopPositions, h]

theorem WindowLaw.congr (h : WindowLaw s) (hw : s'.written = s.written) : WindowLaw s' where
  inOrder := by
    rw [loopPositions_congr hw]
    exact h.inOrder
  below := by
    rw [hw]
    exact h.below

/-- A transmission outside the loop. -/
theorem WindowLaw.other (h : WindowLaw s) {w : Transmission} (hw : s'.written = s.written ++ [w])
    (hcause : w.cause ≠ .sendLoop) : WindowLaw s' ∧ loopPositions s' = loopPositions s := by
  have hpos := loopPositions_of_cause hw hcause
  refine ⟨⟨by rw [hpos]; exact h.inOrder, fun v hv hv' => ?_⟩, hpos⟩
  rw [hw] at hv
  rcases List.mem_append.mp hv with hv | hv
  · exact h.below v hv hv'
  · obtain rfl := List.mem_singleton.mp hv
    exact absurd hv' hcause

/-- A transmission of the loop that is the next packet and below the window. -/
theorem WindowLaw.next (h : WindowLaw s) {w : Transmission} (hw : s'.written = s.written ++ [w])
    (hcause : w.cause = .sendLoop) (hpos : w.position = (loopPositions s).length)
    (hbelow : ∃ b, Unwraps 256 w.position w.base b ∧ w.position < b + w.window) :
    WindowLaw s' ∧ (loopPositions s').length = (loopPositions s).length + 1 := by
  have hsnoc : loopPositions s' = loopPositions s ++ [w.position] := by
    rw [loopPositions_snoc hw, if_pos hcause]
  have hlen : (loopPositions s').length = (loopPositions s).length + 1 := by
    rw [hsnoc, List.length_append, List.length_singleton]
  refine ⟨⟨?_, fun v hv hv' => ?_⟩, hlen⟩
  · rw [hlen, List.range_succ, ← h.inOrder, hsnoc, hpos]
  · rw [hw] at hv
    rcases List.mem_append.mp hv with hv | hv
    · exact h.below v hv hv'
    · obtain rfl := List.mem_singleton.mp hv
      exact hbelow

/-! ## A pass -/

/-- The invariant between iterations. -/
structure Paced (s : Sender) : Prop extends WindowLaw s, Recent s where
  nextseqnum : s.status = .absentLookup ∨ s.nextseqnum = (loopPositions s).length % 256
  sentMade : (loopPositions s).length ≤ s.seqnum
  base_lt : s.base < 256
  window_le : s.window ≤ 31

/-- The invariant of the loop, started in `s`, after `t` packets. -/
structure Pacing (s a : Sender) (t : ℕ) : Prop extends WindowLaw a, Recent a, OutputFrame s a where
  sent : (loopPositions a).length = (loopPositions s).length + t
  sentMade : (loopPositions a).length ≤ a.seqnum
  nextseqnum : a.nextseqnum = s.nextseqnum + t
  bound : t = 0 ∨ MaySend s ∧ s.nextseqnum + t ≤ s.base + s.window

theorem Pacing.start (h : Paced s) : Pacing s s 0 where
  toWindowLaw := h.toWindowLaw
  toRecent := h.toRecent
  toOutputFrame := OutputFrame.refl s
  sent := rfl
  sentMade := h.sentMade
  nextseqnum := rfl
  bound := Or.inl rfl

/-- What the condition of the loop says about the state it was started in. -/
theorem Pacing.maySend {a : Sender} {t : ℕ} (h : Pacing s a t) (hmay : MaySend a) :
    MaySend s ∧ s.nextseqnum + t < s.base + s.window := by
  have hlt : s.nextseqnum + t < s.base + s.window := by
    rw [← h.nextseqnum, ← h.base, ← h.window]
    exact hmay.1
  refine ⟨?_, hlt⟩
  rcases h.bound with rfl | ⟨hstart, -⟩
  · refine ⟨by omega, ?_⟩
    rw [← h.lastAck, ← Nat.add_zero s.nextseqnum, ← h.nextseqnum]
    exact hmay.2
  · exact hstart

/-- **The body of the loop** sends the next packet of the stream, below the window. -/
theorem Pacing.sendNext {a b : Sender} {t : ℕ} {e : SenderPoll} (hgen : Genuine crc32 file a)
    (h : Pacing s a t) (hnext : s.nextseqnum = (loopPositions s).length % 256)
    (hbase : s.base < 256) (hwindow : s.window ≤ 31) (hpass : PassInOrder s) (hmay : MaySend a)
    (hb : TrtpNetwork.sendNext crc32 e a = some b) : ∃ t', Pacing s b t' := by
  obtain ⟨hstart, hlt⟩ := h.maySend hmay
  obtain ⟨hle, hmade⟩ := hpass hstart
  have hsent := h.sent
  have hseq := h.seqnum
  have hanext := h.nextseqnum
  have hbrecent := h.toRecent.sendNext hb
  rcases sendNext_cases crc32 hb with ⟨-, rfl⟩ | ⟨i, p, pkt, payload, hi, hp, hpkt, hnum, -, rfl⟩
  · exact ⟨t, h.toWindowLaw.congr rfl, hbrecent, ⟨h.listPkt, h.fd, h.seqnum, h.window, h.base,
      h.lastAck⟩, h.sent, h.sentMade, h.nextseqnum, h.bound⟩
  · -- the packet found has the number of the next one, and is less than 256 positions from it
    have hlt' := (hgen.packet p pkt hpkt).1
    have hpos : p = (loopPositions a).length := by
      have hrecent := h.toRecent.le_add hi hp (by rw [hpkt]; simp)
      have hmod := hgen.seqnum_eq hpkt
      have hle' := h.sentMade
      unfold tableSize at hmade hrecent
      exact eq_of_mod_eq (m := 256) (by omega) (by omega) (by omega)
    -- and `base`, not above `nextseqnum`, is the position as far before it
    have hunwraps : Unwraps 256 p s.base (p + s.base - a.nextseqnum) := by
      unfold Unwraps
      omega
    have hbelow : p < p + s.base - a.nextseqnum + a.window := by
      rw [h.window]
      omega
    obtain ⟨hlaw, hlen⟩ : WindowLaw (sentNext crc32 e a p pkt payload) ∧
        (loopPositions (sentNext crc32 e a p pkt payload)).length = (loopPositions a).length + 1 :=
      h.toWindowLaw.next rfl rfl hpos ⟨_, h.base ▸ hunwraps, hbelow⟩
    refine ⟨t + 1, hlaw, hbrecent, ⟨h.listPkt, h.fd, h.seqnum,
      h.window, h.base, h.lastAck⟩, by omega, ?_, ?_, Or.inr ⟨hstart, by omega⟩⟩
    · rw [hlen, ← hpos]
      exact hlt'
    · show a.nextseqnum + 1 = s.nextseqnum + (t + 1)
      omega

/-- **A pass over the window** sends at most `window` packets, in order. -/
theorem Paced.sendWindow {e : SenderPoll} (hgen : Genuine crc32 file s) (h : Paced s)
    (hstatus : s.status ≠ .absentLookup) (hpass : s.bufferUpdate = true → PassInOrder s)
    (hsend : TrtpNetwork.sendWindow crc32 s e = some s') :
    Paced s' ∧ (loopPositions s').length ≤ (loopPositions s).length + s.window := by
  have hnext := h.nextseqnum.resolve_left hstatus
  rcases sendWindow_cases crc32 hsend with ⟨-, rfl⟩ | ⟨hupdate, m, hm, hm'⟩
  · exact ⟨h, Nat.le_add_right ..⟩
  · obtain ⟨-, t, hpacing⟩ : Genuine crc32 file m ∧ ∃ t, Pacing s m t := by
      refine sendLoop_rule crc32 (P := fun a => Genuine crc32 file a ∧ ∃ t, Pacing s a t) ?_
        ⟨hgen, 0, Pacing.start h⟩ hm
      rintro a b ⟨hgena, t, ha⟩ hmay hb
      exact ⟨hgena.sendNext hb,
        ha.sendNext hgena hnext h.base_lt h.window_le (hpass hupdate) hmay hb⟩
    have hsent := hpacing.sent
    have hcount : t ≤ s.window := by
      rcases hpacing.bound with rfl | ⟨hmay, hle⟩
      · exact Nat.zero_le _
      · have := (hpass hupdate hmay).1
        omega
    have hbase : m.base < 256 := by
      rw [hpacing.base]
      exact h.base_lt
    have hwindow : m.window ≤ 31 := by
      rw [hpacing.window]
      exact h.window_le
    rcases hm' with ⟨habsent, rfl⟩ | ⟨-, rfl⟩
    · exact ⟨⟨hpacing.toWindowLaw, hpacing.toRecent, Or.inl habsent, hpacing.sentMade, hbase,
        hwindow⟩, by omega⟩
    · refine ⟨⟨hpacing.toWindowLaw.congr rfl, hpacing.toRecent.mono rfl rfl fun _ hq => hq,
        Or.inr ?_, hpacing.sentMade, hbase, hwindow⟩, ?_⟩
      · show m.nextseqnum % 256 = (loopPositions m).length % 256
        rw [hpacing.nextseqnum, hsent, hnext]
        omega
      · show (loopPositions m).length ≤ _
        omega

/-! ## The other parts of an iteration -/

/-- What the answer to a NACK and the timeout change. -/
theorem Paced.other (h : Paced s) (hframe : OutputFrame s s') (hrecent : Recent s')
    (hnext : s'.nextseqnum = s.nextseqnum)
    (hstatus : s.status = .absentLookup → s'.status = .absentLookup)
    (hwritten : s'.written = s.written ∨
      ∃ w : Transmission, s'.written = s.written ++ [w] ∧ w.cause ≠ .sendLoop) :
    Paced s' ∧ loopPositions s' = loopPositions s := by
  obtain ⟨hlaw, hpos⟩ : WindowLaw s' ∧ loopPositions s' = loopPositions s := by
    rcases hwritten with hsame | ⟨w, hsnoc, hcause⟩
    · exact ⟨h.toWindowLaw.congr hsame, loopPositions_congr hsame⟩
    · exact h.toWindowLaw.other hsnoc hcause
  refine ⟨⟨hlaw, hrecent, ?_, ?_, ?_, ?_⟩, hpos⟩
  · rw [hnext, hpos]
    exact h.nextseqnum.imp_left hstatus
  · rw [hpos, hframe.seqnum]
    exact h.sentMade
  · rw [hframe.base]
    exact h.base_lt
  · rw [hframe.window]
    exact h.window_le

theorem Paced.retransmitNack (h : Paced s) (hnack : TrtpNetwork.retransmitNack crc32 s = some s') :
    Paced s' ∧ loopPositions s' = loopPositions s := by
  have hrecent := h.toRecent.retransmitNack hnack
  rcases retransmitNack_cases crc32 hnack with rfl | rfl | ⟨i, p, pkt, payload, -, -, -, rfl⟩
  · exact ⟨h, rfl⟩
  · exact h.other ⟨rfl, rfl, rfl, rfl, rfl, rfl⟩ hrecent rfl (fun _ => rfl) (Or.inl rfl)
  · exact h.other ⟨rfl, rfl, rfl, rfl, rfl, rfl⟩ hrecent rfl (fun hs => hs)
      (Or.inr ⟨_, rfl, by simp⟩)

/-- It leaves alone what the condition on a pass is about. -/
theorem passInOrder_retransmitNack (hnack : TrtpNetwork.retransmitNack crc32 s = some s')
    (hpass : s.bufferUpdate = true → PassInOrder s) : s'.bufferUpdate = true → PassInOrder s' := by
  rcases retransmitNack_cases crc32 hnack with rfl | rfl | ⟨i, p, pkt, payload, -, -, -, rfl⟩
  · exact hpass
  · exact hpass
  · intro hupdate hmay
    have hpos : loopPositions { transmitted crc32 s .nack p pkt payload with nack := -1 } =
        loopPositions s := loopPositions_of_cause rfl (by simp)
    rw [hpos]
    exact hpass hupdate hmay

theorem Paced.resendTimeout (h : Paced s) {e : SenderPoll}
    (htime : TrtpNetwork.resendTimeout crc32 s e = some s') :
    Paced s' ∧ loopPositions s' = loopPositions s := by
  have hrecent := h.toRecent.resendTimeout htime
  rcases resendTimeout_cases crc32 htime with rfl | ⟨p, pkt, payload, -, -, -, -, rfl⟩
  · exact ⟨h, rfl⟩
  · exact h.other ⟨rfl, rfl, rfl, rfl, rfl, rfl⟩ hrecent rfl (fun hs => hs)
      (Or.inr ⟨_, rfl, by simp⟩)

theorem Paced.senderReceive (h : Paced s) (hrunning : s.status = .running) {e : SenderPoll}
    (hrcv : TrtpNetwork.senderReceive crc32 s e = some s') :
    Paced s' ∧ loopPositions s' = loopPositions s := by
  have hnext := h.nextseqnum.resolve_left (by rw [hrunning]; simp)
  rcases senderReceive_cases crc32 hrcv with ⟨-, hf⟩ | ⟨ack, -, hack⟩
  · have hpos := loopPositions_congr hf.written
    refine ⟨⟨h.toWindowLaw.congr hf.written, h.toRecent.senderReceive hrcv, Or.inr ?_, ?_, ?_, ?_⟩,
      hpos⟩
    · rw [hf.nextseqnum, hpos, hnext]
    · rw [hpos, hf.seqnum]
      exact h.sentMade
    · rw [hf.base]
      exact h.base_lt
    · rw [hf.window]
      exact h.window_le
  · obtain ⟨hwritten, hnext', -, hbase, hwindow⟩ := handleAck_frame crc32 hack
    have hmade := seqnum_le_handleAck crc32 hack
    have hpos := loopPositions_congr (s := s) hwritten
    refine ⟨⟨h.toWindowLaw.congr hwritten, h.toRecent.senderReceive hrcv, Or.inr ?_, ?_, ?_, ?_⟩,
      hpos⟩
    · rw [hnext', hpos]
      exact hnext
    · rw [hpos]
      exact h.sentMade.trans hmade
    · rw [hbase, ackedBase]
      have hlt := ack.seqnum.toNat_lt
      have := h.base_lt
      split <;> omega
    · rw [hwindow]
      have hlt := ack.window.isLt
      have := h.window_le
      split <;> omega

/-- **One iteration** keeps the law, and sends at most `window` packets. -/
theorem Paced.step {e : SenderPoll} (hgen : Genuine crc32 file s) (h : Paced s)
    (hpass : PassesInOrder crc32 s e) (hstep : readWriteLoopSender crc32 s e = some s') :
    Paced s' ∧ (loopPositions s').length ≤ (loopPositions s).length + s'.window := by
  rcases readWriteLoopSender_cases crc32 hstep with ⟨-, rfl⟩ | ⟨hrunning, m, hm, hm'⟩
  · exact ⟨h, Nat.le_add_right ..⟩
  obtain ⟨hpaced, hpos⟩ := h.senderReceive hrunning hm
  rcases hm' with ⟨-, rfl⟩ | ⟨-, hreply⟩
  · exact ⟨hpaced, by rw [hpos]; exact Nat.le_add_right ..⟩
  have hwindow := (outputFrame_of_senderReply crc32 hreply).window
  rcases senderReply_cases crc32 hreply with ⟨-, rfl⟩ | ⟨hout, a, ha, ha'⟩
  · exact ⟨hpaced, by rw [hpos]; exact Nat.le_add_right ..⟩
  obtain ⟨hpaceda, hposa⟩ := hpaced.retransmitNack ha
  rcases ha' with ⟨-, rfl⟩ | ⟨hstatus, b, hb, hb'⟩
  · exact ⟨hpaceda, by rw [hposa, hpos]; exact Nat.le_add_right ..⟩
  obtain ⟨hpacedb, hcount⟩ := hpaceda.sendWindow ((hgen.senderReceive hm).retransmitNack ha)
    hstatus (passInOrder_retransmitNack ha (hpass hout m hm)) hb
  have hwindowa : a.window = m.window := by
    rcases retransmitNack_cases crc32 ha with rfl | rfl | ⟨i, p, pkt, payload, -, -, -, rfl⟩ <;> rfl
  rw [hposa, hpos, hwindowa, ← hwindow] at hcount
  rcases hb' with ⟨-, rfl⟩ | ⟨-, htime⟩
  · exact ⟨hpacedb, hcount⟩
  · obtain ⟨hpaced', hpos'⟩ := hpacedb.resendTimeout htime
    exact ⟨hpaced', by rwa [hpos']⟩

theorem paced_of_starts (h : Starts s) : Paced s where
  toRecent := recent_of_starts h
  inOrder := by simp [loopPositions, h.written]
  below := by simp [h.written]
  nextseqnum := Or.inr (by simp [loopPositions, h.written, h.nextseqnum])
  sentMade := by simp [loopPositions, h.written]
  base_lt := by simp [h.base]
  window_le := by simp [h.window]

/-- **The window law** for the runs in which every pass starts in order: for every file, whatever is
read, the loop over `nextseqnum` has sent every packet once, in stream order without gaps and below
`base + window`, and an iteration sends at most `window` packets. -/
theorem windowLaw_of_run (crc32 : List UInt8 → UInt32) (file : List UInt8) (buffer : Memory)
    (freshAck : Pkt) (clockAck : UInt32) (fill : FillInputs) (s₀ : Sender)
    (hinit : Sender.init crc32 file buffer freshAck clockAck fill = some s₀)
    (es : List SenderPoll) (s : Sender)
    (hrun : Run (readWriteLoopSender crc32) (fun _ s e => PassesInOrder crc32 s e) s₀ es s) :
    WindowLaw s ∧ ∀ e s', PassesInOrder crc32 s e → readWriteLoopSender crc32 s e = some s' →
      (loopPositions s').length ≤ (loopPositions s).length + s'.window := by
  obtain ⟨hgen, hstart⟩ := starts_of_init hinit
  have hinv : Genuine crc32 file s ∧ Paced s := by
    refine hrun.invariant (I := fun _ s => Genuine crc32 file s ∧ Paced s)
      ⟨hgen, paced_of_starts hstart⟩ ?_
    rintro es s e s' ⟨hgen, hpaced⟩ hpass hstep
    exact ⟨hgen.step hstep, (hpaced.step hgen hpass hstep).1⟩
  exact ⟨hinv.2.toWindowLaw, fun e s' hpass hstep => (hinv.2.step hinv.1 hpass hstep).2⟩

instance (s : Sender) : Decidable (PassInOrder s) := by
  unfold PassInOrder
  infer_instance

instance (s : Sender) (e : SenderPoll) : Decidable (PassesInOrder crc32 s e) := by
  unfold PassesInOrder
  infer_instance

/-- The first packet, its ACK, and four packets more. -/
theorem windowLaw_first : ∃ s : Sender, loopPositions s = [0, 1, 2, 3, 4] ∧ WindowLaw s := by
  obtain ⟨s, hrun, hview⟩ := exists_run_of_follow (readWriteLoopSender zlibCrc32)
    (fun _ s e => PassesInOrder zlibCrc32 s e) (startSender []) [writePoll, ackPoll 1 .pollout]
    loopPositions (show _ = some [0, 1, 2, 3, 4] by decide +kernel)
  exact ⟨s, hview, (windowLaw_of_run zlibCrc32 [] (fun _ => 0) blankPkt 0 blankFill
    (startSender []) (init_startSender []) _ s hrun).1⟩

/-! ## The loop behind the wrap -/

/-- The ACKs that are read are for packets that were sent, and no packet 128 or more positions newer
was. -/
def AcksRecent (crc32 : List UInt8 → UInt32) (s : Sender) (e : SenderPoll) : Prop :=
  ∀ ack ∈ ackRead crc32 s e, ∃ v ∈ s.written, ack.seqnum.toNat = (v.position + 1) % 256 ∧
    ∀ w ∈ s.written, w.position < v.position + 128

/-- The datagram of `ackPoll`. -/
theorem isAck_ackPoll (k : ℕ) :
    IsAck zlibCrc32 k (controlPkt blankPkt .ack (k + 1 : ℕ) 4 0,
      encoding zlibCrc32 (controlPkt blankPkt .ack (k + 1 : ℕ) 4 0) []) where
  type := rfl
  tr := rfl
  seqnum := toNat_toUint8_natCast (k + 1)
  window := by
    show (windowField blankPkt 4).val = 4
    decide
  content := rfl
  bytes := rfl

/-- In lockstep the next ACK is a recent one. -/
theorem Lockstep.acksRecent {k n : ℕ} (h : Lockstep zlibCrc32 file k n s) (hlo : k < n)
    (hhi : n ≤ k + 128) (writable : Writable) :
    AcksRecent zlibCrc32 s (ackPoll (k + 1) writable) := by
  intro ack hack
  obtain ⟨ack', hack', hnum, -⟩ := ackRead_of_isAck (isAck_ackPoll k)
    (e := ackPoll (k + 1) writable) rfl s
  obtain rfl := Option.some.inj (hack'.symm.trans hack)
  have hmem : ∀ p, p ∈ s.written.map Transmission.position ↔ p < n := by
    rw [h.position]
    simp
  obtain ⟨v, hv, hpos⟩ := List.mem_map.mp ((hmem k).mpr hlo)
  refine ⟨v, hv, by rw [hpos, hnum], fun w hw => ?_⟩
  have := (hmem w.position).mp (List.mem_map_of_mem hw)
  omega

/-- The runs with recent ACKs, from the sender of an empty file. -/
def RecentRun (es : List SenderPoll) (s : Sender) : Prop :=
  Run (readWriteLoopSender zlibCrc32) (fun _ s e => AcksRecent zlibCrc32 s e) (startSender [])
    es s

/-- A run in which `k` ACKs are read, each with the socket writable. -/
theorem exists_upToDate (k : ℕ) :
    ∃ es s, RecentRun es s ∧ UpToDate zlibCrc32 [] k (reach k) s := by
  induction k with
  | zero =>
    obtain ⟨hgen, hstart⟩ := starts_of_init (init_startSender [])
    obtain ⟨s', hs', hup | ⟨hlate, -⟩⟩ :=
      (UpToDate.of_starts hgen hstart).pass (e := writePoll) rfl rfl
    · have hnone : AcksRecent zlibCrc32 (startSender []) writePoll := fun ack hack => by cases hack
      exact ⟨_, s', Run.snoc Run.nil hnone hs', hup⟩
    · exact absurd hlate (Nat.lt_irrefl 0)
  | succ k ih =>
    obtain ⟨es, s, hrun, hup⟩ := ih
    have hlo := lt_reach k
    have hle := reach_le_add k
    obtain ⟨s', hs', hup' | ⟨hlate, -⟩⟩ := hup.read (by omega) (isAck_ackPoll k)
      (e := ackPoll (k + 1) .pollout) rfl rfl
    · exact ⟨_, s', hrun.snoc (hup.toLockstep.acksRecent hlo (by omega) .pollout) hs', hup'⟩
    · exact absurd hlate (Nat.lt_irrefl 0)

/-- After ACK number 252, whose iteration finds the socket not writable, the next pass sends packets
255 and 256: `nextseqnum` is reduced to 1, with `base` at 253. -/
theorem exists_wrapped : ∃ es s, RecentRun es s ∧ Lockstep zlibCrc32 [] 253 257 s := by
  obtain ⟨es, s, hrun, hup⟩ := exists_upToDate 251
  have hlock : Lockstep zlibCrc32 [] 251 255 s := hup.toLockstep
  obtain ⟨m, hm, hlockm, -, -⟩ := hlock.receive (isAck_ackPoll 251) (e := ackPoll 252 .idle) rfl
  have hstep : readWriteLoopSender zlibCrc32 s (ackPoll 252 .idle) = some m := by
    rw [hlockm.goesOn hlock.running hm]
    exact senderReply_of_not_pollout (by simp [ackPoll])
  have hrunm := hrun.snoc (hlock.acksRecent (by decide) (by decide) .idle) hstep
  obtain ⟨a, ha, hlocka, hupdate, -⟩ :=
    hlockm.receive (isAck_ackPoll 252) (e := ackPoll 253 .pollout) rfl
  have hbase := hlocka.base
  have hnext := hlocka.nextseqnum
  have hwindow := hlocka.window
  rw [if_neg (by decide)] at hwindow
  have hpass := hlocka.send (e := ackPoll 253 .pollout) hupdate (m := 2) (by decide) (by decide)
    (by omega) (fun _ => ⟨by omega, Or.inl (by omega)⟩) (by omega)
  obtain ⟨b, hb, hlockb | ⟨hlate, -⟩⟩ := hlocka.reply rfl hpass
  · rw [← hlocka.goesOn hlockm.running ha] at hb
    exact ⟨_, b, hrunm.snoc (hlockm.acksRecent (by decide) (by decide) .pollout) hb, hlockb⟩
  · exact absurd hlate (Nat.lt_irrefl 0)

/-- **A pass that starts behind the wrap runs through the whole round.**  254 packets of an empty
file are acknowledged in order; only in the iteration of ACK number 252 the socket is not writable.
ACK 254 then finds `base` at 254 and `nextseqnum` at 1, and the loop goes on after packet 257 until
the table has no more. -/
theorem not_windowLaw :
    ¬ ∀ (file : List UInt8) (buffer : Memory) (freshAck : Pkt) (clockAck : UInt32)
      (fill : FillInputs) (s₀ : Sender),
      Sender.init zlibCrc32 file buffer freshAck clockAck fill = some s₀ →
      ∀ (es : List SenderPoll) (s : Sender),
        Run (readWriteLoopSender zlibCrc32) (fun _ s e => AcksRecent zlibCrc32 s e) s₀ es s →
        WindowLaw s := by
  intro h
  obtain ⟨es, s, hrun, hlock⟩ := exists_wrapped
  obtain ⟨m, hm, hlockm, hupdate, -⟩ :=
    hlock.receive (isAck_ackPoll 253) (e := ackPoll 254 .pollout) rfl
  have hbase := hlockm.base
  have hnext := hlockm.nextseqnum
  have hwindow := hlockm.window
  rw [if_neg (by decide)] at hwindow
  -- the loop sends packets 257 to 303, the last one of the table
  obtain ⟨a, ha, horda, hsends⟩ := hlockm.toAckedInOrder.sendLoop (ackPoll 254 .pollout)
    257 47 (m.base + m.window - m.nextseqnum)
    (by rw [hlockm.running]; simp) (by decide) (by decide) (by omega) (by omega) (by omega)
    (fun _ => ⟨by omega, Or.inl (by omega)⟩)
  have hanext := hsends.nextseqnum
  have habase := hsends.base
  have hawindow := hsends.window
  have hmay : MaySend a := ⟨by omega, Or.inl (by omega)⟩
  have habsent : findBuffer a (a.nextseqnum % 256) tableSize = some none :=
    horda.findBuffer_absent (p := 304) (by decide) (by decide) (by omega)
  have hloop : sendLoop zlibCrc32 (ackPoll 254 .pollout) (m.base + m.window - m.nextseqnum) m =
      some { a with status := .absentLookup } := by
    obtain ⟨fuel, hfuel⟩ : ∃ f, m.base + m.window - m.nextseqnum - 47 = f + 1 := ⟨209, by omega⟩
    rw [ha, hfuel, sendLoop, if_pos hmay, sendNext, habsent]
    rfl
  have hstep : readWriteLoopSender zlibCrc32 s (ackPoll 254 .pollout) =
      some { a with status := .absentLookup } := by
    have hnack : retransmitNack zlibCrc32 m = some m := by
      rw [retransmitNack, if_neg fun hn => hn.1 hlockm.nack]
    have hsend : sendWindow zlibCrc32 m (ackPoll 254 .pollout) =
        some { a with status := .absentLookup } := by
      rw [sendWindow, if_pos hupdate, hloop]
      simp
    rw [hlockm.goesOn hlock.running hm, senderReply, show (ackPoll 254 .pollout).writable =
      .pollout from rfl]
    simp [hnack, hsend, hlockm.running]
  have hlaw := h [] (fun _ => 0) blankPkt 0 blankFill (startSender []) (init_startSender []) _ _
    (hrun.snoc (hlock.acksRecent (by decide) (by decide) .pollout) hstep)
  obtain ⟨l, hl, hpos, hall⟩ := hsends.written
  have hmem : 258 ∈ l.map Transmission.position := by
    rw [hpos]
    decide
  obtain ⟨w, hw, hposw⟩ := List.mem_map.mp hmem
  obtain ⟨hcause, hwbase, hwwindow⟩ := hall w hw
  obtain ⟨b, ⟨hmod, hlo, hhi⟩, hbelow⟩ := hlaw.below w
    (show w ∈ a.written from hl ▸ List.mem_append_right _ hw) hcause
  omega

end TrtpNetwork
