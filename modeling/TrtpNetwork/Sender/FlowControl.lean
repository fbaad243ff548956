import TrtpNetwork.Sender.Table

/-!
# The windows of the ACKs

Every ACK advertises a window.  The sender has one variable for it, and assigns it only where the
new window is larger: `window` grows to the size of the receiver's buffer and stays there, and an
ACK with a smaller one leaves it as it is.

`sendsBelow_of_run` is the bound this gives: as long as the ACKs come in order, what the loop over
`nextseqnum` sends is below the number of the last ACK plus the largest window advertised so far.
`not_sendsBelow` shows that the window of the last ACK is no bound.
-/

namespace TrtpNetwork

variable (crc32 : List UInt8 → UInt32)

/-- One iteration of the sender, with a record of the ACKs processed, each with its number and its
window. -/
def flowStep (t : Sender × List (ℕ × ℕ)) (e : SenderPoll) : Option (Sender × List (ℕ × ℕ)) :=
  (readWriteLoopSender crc32 t.1 e).map fun s =>
    (s, t.2 ++ (ackProcessed crc32 t.1 e).toList.map fun ack =>
      (ack.seqnum.toNat, ack.window.val))

/-- The number of the ACK processed last. -/
def lastNumber (acks : List (ℕ × ℕ)) : ℕ := (acks.getLastD (0, 0)).1

/-- The largest window so far, which is 1 before the first ACK. -/
def largestWindow (acks : List (ℕ × ℕ)) : ℕ := acks.foldl (fun win ack => max win ack.2) 1

/-- The ACK that is processed, if one is, has no smaller number than the one before. -/
def AcksAscend (t : Sender × List (ℕ × ℕ)) (e : SenderPoll) : Prop :=
  ∀ ack ∈ ackProcessed crc32 t.1 e, lastNumber t.2 ≤ ack.seqnum.toNat

/-- It is also for a packet that was sent, and the numbers are far from the wrap. -/
def AcksInOrder (t : Sender × List (ℕ × ℕ)) (e : SenderPoll) : Prop :=
  ∀ ack ∈ ackProcessed crc32 t.1 e, lastNumber t.2 ≤ ack.seqnum.toNat ∧
    ack.seqnum.toNat < 256 - 31 ∧ ∃ w ∈ t.1.written, ack.seqnum.toNat = w.position + 1

/-- What the loop over `nextseqnum` sends from `s` to `s'` are packets of the file with a sequence
number below the bound. -/
def SendsBelow (file : List UInt8) (bound : ℕ) (s s' : Sender) : Prop :=
  ∀ w ∈ s'.written.drop s.written.length, w.cause = .sendLoop →
    ∃ pkt, IsFilePacket file w.position pkt ∧
      w.datagram = encoding crc32 pkt (chunk file w.position) ∧ pkt.seqnum.toNat < bound

instance (t : Sender × List (ℕ × ℕ)) (e : SenderPoll) : Decidable (AcksAscend crc32 t e) := by
  unfold AcksAscend
  infer_instance

instance (t : Sender × List (ℕ × ℕ)) (e : SenderPoll) : Decidable (AcksInOrder crc32 t e) := by
  unfold AcksInOrder
  infer_instance

variable {crc32} {file : List UInt8} {s s' : Sender}

theorem lastNumber_snoc (acks : List (ℕ × ℕ)) (ack : ℕ × ℕ) :
    lastNumber (acks ++ [ack]) = ack.1 := by
  simp [lastNumber]

theorem largestWindow_snoc (acks : List (ℕ × ℕ)) (ack : ℕ × ℕ) :
    largestWindow (acks ++ [ack]) = max (largestWindow acks) ack.2 := by
  simp [largestWindow]

/-! ## One iteration -/

/-- The output half up to some point: what the loop over `nextseqnum` has sent since `s` is below
`base + window`. -/
structure SendingBelow (s a : Sender) : Prop extends OutputFrame s a where
  sent : ∃ l, a.written = s.written ++ l ∧
    ∀ w ∈ l, w.cause = .sendLoop → w.position % 256 < s.base + s.window

theorem SendingBelow.refl (s : Sender) : SendingBelow s s :=
  ⟨OutputFrame.refl s, [], (List.append_nil _).symm, fun w hw => by cases hw⟩

/-- A step that writes nothing. -/
theorem SendingBelow.quiet {a b : Sender} (h : SendingBelow s a) (hframe : OutputFrame a b)
    (hwritten : b.written = a.written) : SendingBelow s b := by
  obtain ⟨l, hl, hall⟩ := h.sent
  exact ⟨h.toOutputFrame.trans hframe, l, hwritten.trans hl, hall⟩

/-- A step that writes one datagram. -/
theorem SendingBelow.snoc {a b : Sender} (h : SendingBelow s a) (hframe : OutputFrame a b)
    {w : Transmission} (hwritten : b.written = a.written ++ [w])
    (hw : w.cause = .sendLoop → w.position % 256 < s.base + s.window) : SendingBelow s b := by
  obtain ⟨l, hl, hall⟩ := h.sent
  refine ⟨h.toOutputFrame.trans hframe, l ++ [w], by rw [hwritten, hl, List.append_assoc], ?_⟩
  intro v hv hcause
  rcases List.mem_append.mp hv with hv | hv
  · exact hall v hv hcause
  · obtain rfl := List.mem_singleton.mp hv
    exact hw hcause

/-- The body of the loop: its condition bounds `nextseqnum`, and with it the number looked up. -/
theorem SendingBelow.sendNext {a b : Sender} {e : SenderPoll} (hgen : Genuine crc32 file a)
    (h : SendingBelow s a) (hmay : MaySend a) (hb : sendNext crc32 e a = some b) :
    SendingBelow s b := by
  rcases sendNext_cases crc32 hb with ⟨-, rfl⟩ | ⟨i, p, pkt, payload, -, -, hpkt, hnum, -, rfl⟩
  · exact h.quiet ⟨rfl, rfl, rfl, rfl, rfl, rfl⟩ rfl
  · refine h.snoc ⟨rfl, rfl, rfl, rfl, rfl, rfl⟩ rfl fun _ => ?_
    have hlt := hmay.1
    rw [h.base, h.window] at hlt
    rw [hgen.seqnum_eq hpkt] at hnum
    show p % 256 < s.base + s.window
    omega

theorem SendingBelow.sendWindow {a b : Sender} {e : SenderPoll} (hgen : Genuine crc32 file a)
    (h : SendingBelow s a) (hb : sendWindow crc32 a e = some b) : SendingBelow s b := by
  rcases sendWindow_cases crc32 hb with ⟨-, rfl⟩ | ⟨-, m, hm, hm'⟩
  · exact h
  · obtain ⟨-, hsend⟩ : Genuine crc32 file m ∧ SendingBelow s m := by
      refine sendLoop_rule crc32 (P := fun a => Genuine crc32 file a ∧ SendingBelow s a) ?_
        ⟨hgen, h⟩ hm
      rintro a b ⟨hgena, ha⟩ hmay hb
      exact ⟨hgena.sendNext hb, ha.sendNext hgena hmay hb⟩
    rcases hm' with ⟨-, rfl⟩ | ⟨-, rfl⟩
    · exact hsend
    · exact hsend.quiet ⟨rfl, rfl, rfl, rfl, rfl, rfl⟩ rfl

/-- **The output half.** -/
theorem sendingBelow_of_senderReply {e : SenderPoll} (hgen : Genuine crc32 file s)
    (h : senderReply crc32 s e = some s') : SendingBelow s s' := by
  obtain ⟨-, hsend⟩ : Genuine crc32 file s' ∧ SendingBelow s s' := by
    refine senderReply_rule crc32 (P := fun a => Genuine crc32 file a ∧ SendingBelow s a)
      ?_ ?_ ?_ ⟨hgen, SendingBelow.refl s⟩ h
    · rintro a b ⟨hgena, ha⟩ hb
      refine ⟨hgena.retransmitNack hb, ?_⟩
      rcases retransmitNack_cases crc32 hb with rfl | rfl | ⟨i, p, pkt, payload, -, -, -, rfl⟩
      · exact ha
      · exact ha.quiet ⟨rfl, rfl, rfl, rfl, rfl, rfl⟩ rfl
      · exact ha.snoc ⟨rfl, rfl, rfl, rfl, rfl, rfl⟩ rfl fun hcause => by cases hcause
    · rintro a b ⟨hgena, ha⟩ hb
      exact ⟨hgena.sendWindow hb, ha.sendWindow hgena hb⟩
    · rintro a b ⟨hgena, ha⟩ hb
      refine ⟨hgena.resendTimeout hb, ?_⟩
      rcases resendTimeout_cases crc32 hb with rfl | ⟨p, pkt, payload, -, -, -, -, rfl⟩
      · exact ha
      · exact ha.snoc ⟨rfl, rfl, rfl, rfl, rfl, rfl⟩ rfl fun hcause => by cases hcause
  exact hsend

/-- **One iteration** sends below the `base` and the `window` it leaves. -/
theorem sendsBelow_base_window {e : SenderPoll} (hgen : Genuine crc32 file s)
    (h : readWriteLoopSender crc32 s e = some s') :
    SendsBelow crc32 file (s'.base + s'.window) s s' := by
  obtain ⟨l, hl, hall⟩ : ∃ l, s'.written = s.written ++ l ∧
      ∀ w ∈ l, w.cause = .sendLoop → w.position % 256 < s'.base + s'.window := by
    rcases readWriteLoopSender_cases crc32 h with ⟨-, rfl⟩ | ⟨-, m, hm, hm'⟩
    · exact ⟨[], (List.append_nil _).symm, fun w hw => by cases hw⟩
    · have hwritten := written_senderReceive crc32 hm
      rcases hm' with ⟨-, rfl⟩ | ⟨-, hreply⟩
      · exact ⟨[], by rw [hwritten, List.append_nil], fun w hw => by cases hw⟩
      · have hsend := sendingBelow_of_senderReply (hgen.senderReceive hm) hreply
        obtain ⟨l, hl, hall⟩ := hsend.sent
        rw [hsend.base, hsend.window]
        exact ⟨l, by rw [hl, hwritten], hall⟩
  intro w hw hcause
  rw [hl, List.drop_left] at hw
  obtain ⟨pkt, hpkt, hdatagram⟩ := (hgen.step h).sent w (hl ▸ List.mem_append_right _ hw)
  refine ⟨pkt, hpkt, hdatagram, ?_⟩
  rw [hpkt.1.2.1]
  exact hall w hw hcause

/-! ## Runs -/

/-- The state between iterations. -/
structure AtLargest (t : Sender × List (ℕ × ℕ)) : Prop where
  base : t.1.base = lastNumber t.2
  lastAck : t.1.lastAck.seqnum.toNat = lastNumber t.2
  window : t.1.window = largestWindow t.2

/-- **An ACK in order** moves `base` to its number, and `window` to the maximum. -/
theorem AtLargest.step {t t' : Sender × List (ℕ × ℕ)} {e : SenderPoll} (h : AtLargest t)
    (hok : AcksAscend crc32 t e) (hstep : flowStep crc32 t e = some t') : AtLargest t' := by
  obtain ⟨s', hs', rfl⟩ := Option.map_eq_some_iff.mp hstep
  rcases readWriteLoopSender_acked crc32 hs' with ⟨hno, hkeeps⟩ | ⟨ack, hack, htakes⟩
  · simp only [hno, Option.toList_none, List.map_nil, List.append_nil]
    exact ⟨hkeeps.base.trans h.base, (congrArg (·.seqnum.toNat) hkeeps.lastAck).trans h.lastAck,
      hkeeps.window.trans h.window⟩
  · have hle := hok ack hack
    simp only [hack, Option.toList_some, List.map_cons, List.map_nil]
    refine ⟨?_, ?_, ?_⟩
    · have hbase := h.base
      have hlast := h.lastAck
      rw [htakes.base, lastNumber_snoc, ackedBase]
      split
      · rfl
      · simp only
        omega
    · rw [htakes.lastAck, lastNumber_snoc]
    · have hwindow := h.window
      rw [htakes.window, largestWindow_snoc]
      simp only
      split <;> omega

/-- **The sender keeps to the largest window advertised** in the runs whose ACKs come in order: for
every file, an iteration of such a run sends, in the loop over `nextseqnum`, packets below the
number of the last ACK plus the largest window so far. -/
theorem sendsBelow_of_run (crc32 : List UInt8 → UInt32) (file : List UInt8) (buffer : Memory)
    (freshAck : Pkt) (clockAck : UInt32) (fill : FillInputs) (s₀ : Sender)
    (hinit : Sender.init crc32 file buffer freshAck clockAck fill = some s₀)
    (es : List SenderPoll) (t : Sender × List (ℕ × ℕ))
    (hrun : Run (flowStep crc32) (fun _ t e => AcksAscend crc32 t e) (s₀, []) es t)
    (e : SenderPoll) (t' : Sender × List (ℕ × ℕ)) (hok : AcksAscend crc32 t e)
    (hstep : flowStep crc32 t e = some t') :
    SendsBelow crc32 file (lastNumber t'.2 + largestWindow t'.2) t.1 t'.1 := by
  obtain ⟨hgen, hstart⟩ := starts_of_init hinit
  have hinv : Genuine crc32 file t.1 ∧ AtLargest t := by
    refine hrun.invariant (I := fun _ t => Genuine crc32 file t.1 ∧ AtLargest t)
      ⟨hgen, hstart.base, hstart.lastAck, hstart.window⟩ ?_
    rintro es t e t' ⟨hgen, hlargest⟩ hok hstep
    obtain ⟨s', hs', rfl⟩ := Option.map_eq_some_iff.mp hstep
    exact ⟨hgen.step hs', hlargest.step hok hstep⟩
  have hlargest := hinv.2.step hok hstep
  obtain ⟨s', hs', rfl⟩ := Option.map_eq_some_iff.mp hstep
  have hsends := sendsBelow_base_window hinv.1 hs'
  rwa [hlargest.base, hlargest.window] at hsends

/-! ## A window that shrinks -/

/-- An iteration that reads the ACK with the given number and window, the socket writable. -/
def windowPoll (num win : ℕ) : SenderPoll :=
  { writePoll with
    readable := .pollin (.bytes (encoding zlibCrc32 (controlPkt blankPkt .ack num win 0) [])) }

/-- ACK 1 advertises 4 places, and ACK 2 one place: packets 1 to 4 are sent, and then packet 5. -/
theorem sendsBelow_shrinking :
    ∃ t t' : Sender × List (ℕ × ℕ), t'.2 = [(1, 4), (2, 1)] ∧
      SendsBelow zlibCrc32 [] (2 + 4) t.1 t'.1 := by
  obtain ⟨t, hrun, hview⟩ := exists_run_of_follow (flowStep zlibCrc32)
    (fun _ t e => AcksAscend zlibCrc32 t e) (startSender [], []) [writePoll, windowPoll 1 4]
    (fun t => (decide (AcksAscend zlibCrc32 t (windowPoll 2 1)),
      (flowStep zlibCrc32 t (windowPoll 2 1)).map Prod.snd))
    (show _ = some (true, some [(1, 4), (2, 1)]) by decide +kernel)
  obtain ⟨hok, hnext⟩ := Prod.mk.inj hview
  obtain ⟨t', hstep, hacks⟩ := Option.map_eq_some_iff.mp hnext
  refine ⟨t, t', hacks, ?_⟩
  have hsends := sendsBelow_of_run zlibCrc32 [] (fun _ => 0) blankPkt 0 blankFill (startSender [])
    (init_startSender []) _ t hrun (windowPoll 2 1) t' (of_decide_eq_true hok) hstep
  rwa [hacks] at hsends

/-- **The window of the last ACK is no bound**: in the same run packet 5 is sent after ACK 2 with a
window of 1. -/
theorem not_sendsBelow :
    ¬ ∀ (file : List UInt8) (buffer : Memory) (freshAck : Pkt) (clockAck : UInt32)
      (fill : FillInputs) (s₀ : Sender),
      Sender.init zlibCrc32 file buffer freshAck clockAck fill = some s₀ →
      ∀ (es : List SenderPoll) (t : Sender × List (ℕ × ℕ)),
        Run (flowStep zlibCrc32) (fun _ t e => AcksInOrder zlibCrc32 t e) (s₀, []) es t →
        ∀ (e : SenderPoll) (t' : Sender × List (ℕ × ℕ)), AcksInOrder zlibCrc32 t e →
          flowStep zlibCrc32 t e = some t' → ∀ ack, t'.2.getLast? = some ack →
            SendsBelow zlibCrc32 file (ack.1 + ack.2) t.1 t'.1 := by
  intro h
  obtain ⟨t, hrun, hview⟩ := exists_run_of_follow (flowStep zlibCrc32)
    (fun _ t e => AcksInOrder zlibCrc32 t e) (startSender [], []) [writePoll, windowPoll 1 4]
    (fun t : Sender × List (ℕ × ℕ) => (decide (AcksInOrder zlibCrc32 t (windowPoll 2 1)),
      (flowStep zlibCrc32 t (windowPoll 2 1)).map fun t' : Sender × List (ℕ × ℕ) =>
        (t'.2, decide (∃ w ∈ t'.1.written.drop t.1.written.length,
          w.cause = .sendLoop ∧ w.position = 5))))
    (show _ = some (true, some ([(1, 4), (2, 1)], true)) by decide +kernel)
  obtain ⟨hok, hnext⟩ := Prod.mk.inj hview
  obtain ⟨t', hstep, hview'⟩ := Option.map_eq_some_iff.mp hnext
  obtain ⟨hacks, hsent⟩ := Prod.mk.inj hview'
  obtain ⟨w, hw, hcause, hpos⟩ := of_decide_eq_true hsent
  obtain ⟨pkt, hpkt, -, hlt⟩ := h [] (fun _ => 0) blankPkt 0 blankFill (startSender [])
    (init_startSender []) _ t hrun (windowPoll 2 1) t' (of_decide_eq_true hok) hstep (2, 1)
    (by rw [hacks]; rfl) w hw hcause
  rw [hpkt.1.2.1, hpos] at hlt
  exact absurd hlt (by decide)

end TrtpNetwork
