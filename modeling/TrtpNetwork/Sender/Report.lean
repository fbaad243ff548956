import TrtpNetwork.Library.Recording
import TrtpNetwork.Sender.Lookups

/-!
# The final report of the sender

`read_write_loop_sender` counts what it does and prints the counters when it has left the loop.
They are kept beside the variables of `Sender` (`SenderStats`), by a loop that counts along
(`readWriteLoopSenderCounting`) and has the runs of `readWriteLoopSender`, since the counters decide
nothing.

The ledger (`SenderLedger`) says what they amount to.  Two of the lines are not what their names
promise.  `data_sent` counts the packets that the loop over `nextseqnum` or a NACK sends and leaves
out those of the retransmission timeout; and `packet_retransmitted` is never counted up, whatever
was sent again, and neither round trip time is ever measured.  A retransmission on a NACK is always
the answer to one that was received: `nack_sent` never exceeds `nack_received`.
-/

namespace TrtpNetwork

/-- The counters of the report. -/
structure SenderStats where
  dataSent : ℕ
  dataReceived : ℕ
  dataTruncatedReceived : ℕ
  ackReceived : ℕ
  nackSent : ℕ
  nackReceived : ℕ
  packetIgnored : ℕ
  deriving DecidableEq

/-- All counters start at 0. -/
def SenderStats.init : SenderStats := ⟨0, 0, 0, 0, 0, 0, 0⟩

/-! ## Counting -/

/-- What is counted of a packet that was read in the state `s`.  A NACK for a packet outside the
window is not counted at all. -/
def countDecoded (stats : SenderStats) (s : Sender) (decoded : PktStatusCode × Pkt) :
    SenderStats :=
  if decoded.1 ≠ .pktOk then
    { stats with
      dataTruncatedReceived := stats.dataTruncatedReceived + 1
      packetIgnored := stats.packetIgnored + 1 }
  else if decoded.2.type = .nack then
    if decoded.2.seqnum.toNat < s.lastValid ∨ decoded.2.seqnum.toNat > s.lastValid + s.window then
      stats
    else { stats with nackReceived := stats.nackReceived + 1 }
  else if decoded.2.type = .ack then { stats with ackReceived := stats.ackReceived + 1 }
  else
    { stats with
      dataReceived := stats.dataReceived + 1
      packetIgnored := stats.packetIgnored + 1 }

variable (crc32 : List UInt8 → UInt32)

/-- The counters behind the input half that starts from `s`. -/
def countSenderReceive (stats : SenderStats) (s : Sender) (e : SenderPoll) : SenderStats :=
  match e.readable with
  | .pollin (.bytes datagram) =>
    countDecoded stats s (decodeRead crc32 s.buffer (.bytes datagram) e.beyond e.freshDecode)
  | _ => stats

/-- The input half with its counters. -/
def senderReceiveCounting (e : SenderPoll) : Sender × SenderStats → Option (Sender × SenderStats) :=
  recording (fun s => senderReceive crc32 s e) fun s stats _ => countSenderReceive crc32 stats s e

/-- The counters behind a packet that was sent on a NACK. -/
def countNackAnswer (s : Sender) (stats : SenderStats) (s' : Sender) : SenderStats :=
  if s.nack ≠ -1 ∧ s.nack ≠ 256 ∧ s'.status ≠ .absentLookup then
    { stats with nackSent := stats.nackSent + 1, dataSent := stats.dataSent + 1 }
  else stats

/-- `retransmitNack` with its counters. -/
def retransmitNackCounting : Sender × SenderStats → Option (Sender × SenderStats) :=
  recording (retransmitNack crc32) countNackAnswer

/-- The counter behind a packet that the loop over `nextseqnum` sent. -/
def countNext (_ : Sender) (stats : SenderStats) (s' : Sender) : SenderStats :=
  if s'.status ≠ .absentLookup then { stats with dataSent := stats.dataSent + 1 } else stats

/-- `sendNext` with its counter. -/
def sendNextCounting (e : SenderPoll) : Sender × SenderStats → Option (Sender × SenderStats) :=
  recording (sendNext crc32 e) countNext

/-- `sendLoop` with its counter. -/
def sendLoopCounting (e : SenderPoll) : ℕ → Sender × SenderStats → Option (Sender × SenderStats)
  | 0, c => some c
  | fuel + 1, c =>
    if MaySend c.1 then do
      let c ← sendNextCounting crc32 e c
      if c.1.status = .absentLookup then some c else sendLoopCounting e fuel c
    else some c

/-- `sendWindow` with its counter. -/
def sendWindowCounting (c : Sender × SenderStats) (e : SenderPoll) :
    Option (Sender × SenderStats) :=
  if c.1.bufferUpdate then do
    let c ← sendLoopCounting crc32 e (c.1.base + c.1.window - c.1.nextseqnum) c
    if c.1.status = .absentLookup then some c
    else some ({ c.1 with nextseqnum := c.1.nextseqnum % 256 }, c.2)
  else some c

/-- `resendTimeout`, which counts nothing. -/
def resendTimeoutCounting (e : SenderPoll) : Sender × SenderStats → Option (Sender × SenderStats) :=
  recording (fun s => resendTimeout crc32 s e) fun _ stats _ => stats

/-- The output half with its counters. -/
def senderReplyCounting (c : Sender × SenderStats) (e : SenderPoll) :
    Option (Sender × SenderStats) :=
  match e.writable with
  | .pollout => do
    let c ← retransmitNackCounting crc32 c
    if c.1.status = .absentLookup then some c
    else do
      let c ← sendWindowCounting crc32 c e
      if c.1.status = .absentLookup then some c else resendTimeoutCounting crc32 e c
  | _ => some c

/-- **One iteration of `read_write_loop_sender`** with its counters. -/
def readWriteLoopSenderCounting (c : Sender × SenderStats) (e : SenderPoll) :
    Option (Sender × SenderStats) :=
  if c.1.status = .running then do
    let c ← senderReceiveCounting crc32 e c
    if c.1.status = .readFailed then some c else senderReplyCounting crc32 c e
  else some c

/-- The lines that are printed when the loop was left.  `fec_sent`, the two round trip times and
`packet_retransmitted` are variables that are never assigned. -/
def senderReport (stats : SenderStats) : List (String × ℕ) :=
  [("data_sent", stats.dataSent),
    ("data_received", stats.dataReceived),
    ("data_truncated_receive", stats.dataTruncatedReceived),
    ("fec_sent", 0),
    ("fec_received", 0),
    ("ack_sent", 0),
    ("ack_received", stats.ackReceived),
    ("nack_sent", stats.nackSent),
    ("nack_received", stats.nackReceived),
    ("packet_ignored", stats.packetIgnored),
    ("min_rtt", 9999999),
    ("max_rttt", 0),
    ("packet_retransmitted", 0)]

variable {crc32} {s m : Sender} {e : SenderPoll} {stats : SenderStats}
  {c c' : Sender × SenderStats} {reads : ℕ}

/-! ## The counters decide nothing -/

theorem records_sendLoop (crc32 : List UInt8 → UInt32) (e : SenderPoll) (fuel : ℕ) :
    Records Prod.fst (sendLoopCounting crc32 e fuel) (sendLoop crc32 e fuel) := by
  induction fuel with
  | zero => exact Records.some
  | succ fuel ih =>
    have hnext : Records Prod.fst (sendNextCounting crc32 e) (sendNext crc32 e) :=
      Records.recording _ _
    have hrest := Records.ite (p := fun s : Sender => s.status = .absentLookup) Records.some ih
    exact Records.ite (p := MaySend) (hnext.bind hrest) Records.some

theorem records_sendWindow (crc32 : List UInt8 → UInt32) (e : SenderPoll) :
    Records Prod.fst (fun c => sendWindowCounting crc32 c e) fun s => sendWindow crc32 s e := by
  intro c
  have hloop := records_sendLoop crc32 e (c.1.base + c.1.window - c.1.nextseqnum) c
  unfold sendWindowCounting sendWindow
  dsimp only
  split
  · rw [← hloop]
    cases sendLoopCounting crc32 e (c.1.base + c.1.window - c.1.nextseqnum) c with
    | none => rfl
    | some d =>
      simp only [Option.bind_eq_bind, Option.bind_some, Option.map_some]
      split <;> rfl
  · rfl

theorem records_senderReply (crc32 : List UInt8 → UInt32) (e : SenderPoll) :
    Records Prod.fst (fun c => senderReplyCounting crc32 c e) fun s => senderReply crc32 s e := by
  have hnack : Records Prod.fst (retransmitNackCounting crc32) (retransmitNack crc32) :=
    Records.recording _ _
  have htime : Records Prod.fst (resendTimeoutCounting crc32 e)
      fun s => resendTimeout crc32 s e := Records.recording _ _
  have hlast := Records.ite (p := fun s : Sender => s.status = .absentLookup) Records.some htime
  have hrest := Records.ite (p := fun s : Sender => s.status = .absentLookup) Records.some
    ((records_sendWindow crc32 e).bind hlast)
  unfold senderReplyCounting senderReply
  cases e.writable with
  | idle => exact Records.some
  | pollout => exact hnack.bind hrest
  | other => exact Records.some

/-- **The counters decide nothing.** -/
theorem records_readWriteLoopSender (crc32 : List UInt8 → UInt32) (e : SenderPoll) :
    Records Prod.fst (fun c => readWriteLoopSenderCounting crc32 c e)
      fun s => readWriteLoopSender crc32 s e := by
  have hreceive : Records Prod.fst (senderReceiveCounting crc32 e)
      fun s => senderReceive crc32 s e := Records.recording _ _
  have hrest := Records.ite (p := fun s : Sender => s.status = .readFailed) Records.some
    (records_senderReply crc32 e)
  exact Records.ite (p := fun s : Sender => s.status = .running) (hreceive.bind hrest)
    Records.some

/-! ## The ledger -/

/-- The number of a NACK that waits to be answered is one that is looked up. -/
def NackPending (s : Sender) : Prop := s.nack ≠ -1 ∧ s.nack ≠ 256

instance (s : Sender) : Decidable (NackPending s) := by
  unfold NackPending
  infer_instance

/-- What the counters say, after `reads` datagrams were read. -/
structure SenderLedger (reads : ℕ) (s : Sender) (stats : SenderStats) : Prop where
  /-- The packets sent, but for those of the timeout. -/
  sent : stats.dataSent = s.written.countP fun w => w.cause ≠ .timeout
  answers : stats.nackSent = s.written.countP fun w => w.cause = .nack
  /-- Each answer is to a NACK that was received, and so is the one that waits. -/
  requested : stats.nackSent + (if NackPending s then 1 else 0) ≤ stats.nackReceived
  ignored : stats.packetIgnored = stats.dataTruncatedReceived + stats.dataReceived
  received : stats.ackReceived + stats.nackReceived + stats.packetIgnored ≤ reads

/-- The number of datagrams read in some iterations. -/
def datagramsOf (es : List SenderPoll) : ℕ := es.countP fun e => e.readable.result.isSome

theorem senderLedger_of_starts (h : Starts s) : SenderLedger 0 s SenderStats.init where
  sent := by
    rw [h.written]
    rfl
  answers := by
    rw [h.written]
    rfl
  requested := by
    rw [if_neg fun hpending : NackPending s => hpending.1 h.nack]
    exact Nat.le_refl 0
  ignored := rfl
  received := Nat.le_refl 0

/-- The ledger looks at the log and at the pending NACK only. -/
theorem SenderLedger.congr (h : SenderLedger reads s stats) (hwritten : m.written = s.written)
    (hnack : m.nack = s.nack) : SenderLedger reads m stats := by
  have hpending : NackPending m ↔ NackPending s := by rw [NackPending, NackPending, hnack]
  refine ⟨hwritten ▸ h.sent, hwritten ▸ h.answers, ?_, h.ignored, h.received⟩
  rw [if_congr hpending rfl rfl]
  exact h.requested

/-! ## The input half -/

theorem nack_handleAck {fill : FillInputs} {ack : Pkt}
    (h : handleAck crc32 fill s ack = some m) : m.nack = s.nack := by
  obtain ⟨d, q, hd, hq, rfl⟩ := handleAck_cases crc32 h
  obtain ⟨n, -, rfl⟩ := clearAndFillBuffer_cases crc32 hq
  rcases deleteAcked_cases hd with rfl | ⟨k, p, -, -, -, -, rfl⟩
  · rfl
  · rfl

theorem countDecoded_of_ack {decoded : PktStatusCode × Pkt} (hok : decoded.1 = .pktOk)
    (htype : decoded.2.type = .ack) (stats : SenderStats) (s : Sender) :
    countDecoded stats s decoded = { stats with ackReceived := stats.ackReceived + 1 } := by
  have hnack : ¬ decoded.2.type = .nack := by
    rw [htype]
    decide
  unfold countDecoded
  rw [if_neg (not_not.mpr hok), if_neg hnack, if_pos htype]

/-- **What is decoded** is ignored, or counted as what it is, unless it is a NACK for a packet
outside the window. -/
theorem SenderLedger.handleDecoded (h : SenderLedger reads s stats) {fill : FillInputs}
    {decoded : PktStatusCode × Pkt} (hm : handleDecoded crc32 fill s decoded = some m) :
    SenderLedger (reads + 1) m (countDecoded stats s decoded) := by
  have hrequested := h.requested
  have hignored := h.ignored
  have hreceived := h.received
  rcases handleDecoded_cases crc32 hm with ⟨hpassed, rfl⟩ | ⟨hok, htype, hm⟩ | ⟨hok, htype, hm⟩
  · unfold countDecoded
    by_cases hok : decoded.1 = .pktOk
    · obtain ⟨hnack, hack⟩ := hpassed hok
      rw [if_neg (not_not.mpr hok), if_neg hnack, if_neg hack]
      exact ⟨h.sent, h.answers, hrequested, by dsimp only; omega, by dsimp only; omega⟩
    · rw [if_pos hok]
      exact ⟨h.sent, h.answers, hrequested, by dsimp only; omega, by dsimp only; omega⟩
  · rw [countDecoded, if_neg (not_not.mpr hok), if_pos htype]
    obtain rfl := handleNack_cases hm
    by_cases hout : decoded.2.seqnum.toNat < s.lastValid ∨
        decoded.2.seqnum.toNat > s.lastValid + s.window
    · simp only [if_pos hout]
      refine ⟨h.sent, h.answers, ?_, hignored, by omega⟩
      rw [if_neg fun hpending : NackPending { s with nack := 256 } => hpending.2 rfl]
      omega
    · simp only [if_neg hout]
      refine ⟨h.sent, h.answers, ?_, hignored, by dsimp only; omega⟩
      dsimp only
      split <;> omega
  · rw [countDecoded_of_ack hok htype]
    have hcounted : SenderLedger (reads + 1) s
        { stats with ackReceived := stats.ackReceived + 1 } :=
      ⟨h.sent, h.answers, hrequested, hignored, by dsimp only; omega⟩
    exact hcounted.congr (handleAck_frame crc32 hm).1 (nack_handleAck hm)

/-- **The input half** keeps the books. -/
theorem SenderLedger.receive (h : SenderLedger reads s stats)
    (hm : senderReceive crc32 s e = some m) :
    SenderLedger (reads + if e.readable.result.isSome then 1 else 0) m
      (countSenderReceive crc32 stats s e) := by
  have hmore : SenderLedger (reads + 1) s stats :=
    ⟨h.sent, h.answers, h.requested, h.ignored, Nat.le_succ_of_le h.received⟩
  unfold senderReceive at hm
  unfold countSenderReceive
  cases hread : e.readable with
  | idle =>
    rw [hread] at hm
    obtain rfl := Option.some.inj hm
    exact h
  | pollin result =>
    rw [hread] at hm
    cases result with
    | error =>
      obtain rfl := Option.some.inj hm
      exact hmore.congr rfl rfl
    | bytes datagram =>
      have hbuffer : SenderLedger reads
          { s with buffer := readInto s.buffer (.bytes datagram) } stats := h.congr rfl rfl
      exact hbuffer.handleDecoded hm
  | other =>
    rw [hread] at hm
    obtain rfl := Option.some.inj hm
    exact h.congr rfl rfl

/-- An ACK is counted. -/
theorem countSenderReceive_of_ackRead {ack : Pkt} (h : ackRead crc32 s e = some ack)
    (stats : SenderStats) :
    countSenderReceive crc32 stats s e = { stats with ackReceived := stats.ackReceived + 1 } := by
  unfold ackRead at h
  split at h
  · next datagram he =>
    dsimp only at h
    split at h
    · next hack =>
      rw [countSenderReceive, he]
      exact countDecoded_of_ack hack.1 hack.2 stats s
    · cases h
  · cases h

/-! ## The output half -/

/-- The loop over `nextseqnum` keeps what its body keeps. -/
theorem sendLoopCounting_rule {P : Sender × SenderStats → Prop}
    (hnext : ∀ c m, P c → c.1.status ≠ .absentLookup → sendNext crc32 e c.1 = some m →
      P (m, countNext c.1 c.2 m)) {fuel : ℕ} (h : P c) (hs : c.1.status ≠ .absentLookup)
    (hc : sendLoopCounting crc32 e fuel c = some c') : P c' := by
  induction fuel generalizing c with
  | zero =>
    obtain rfl := Option.some.inj hc
    exact h
  | succ fuel ih =>
    rw [sendLoopCounting] at hc
    split at hc
    · obtain ⟨d, hd, hc⟩ := Option.bind_eq_some_iff.mp hc
      obtain ⟨m, hm, rfl⟩ := recording_eq_some_iff.mp hd
      have hPm := hnext c m h hs hm
      split at hc
      · obtain rfl := Option.some.inj hc
        exact hPm
      · exact ih hPm (by assumption) hc
    · obtain rfl := Option.some.inj hc
      exact h

/-- **The rule for the output half with its counters**: what each packet sent keeps, and each answer
to a NACK, the output half keeps. -/
theorem senderReplyCounting_rule {P : Sender × SenderStats → Prop}
    (hnack : ∀ c m, P c → c.1.status ≠ .absentLookup → retransmitNack crc32 c.1 = some m →
      P (m, countNackAnswer c.1 c.2 m))
    (hnext : ∀ c m, P c → c.1.status ≠ .absentLookup → sendNext crc32 e c.1 = some m →
      P (m, countNext c.1 c.2 m))
    (hturn : ∀ c, P c → P ({ c.1 with nextseqnum := c.1.nextseqnum % 256 }, c.2))
    (htime : ∀ c m, P c → resendTimeout crc32 c.1 e = some m → P (m, c.2))
    (h : P c) (hs : c.1.status ≠ .absentLookup) (hc : senderReplyCounting crc32 c e = some c') :
    P c' := by
  unfold senderReplyCounting at hc
  split at hc
  · obtain ⟨a, ha, hc⟩ := Option.bind_eq_some_iff.mp hc
    obtain ⟨m, hm, rfl⟩ := recording_eq_some_iff.mp ha
    have hPa := hnack c m h hs hm
    split at hc
    · obtain rfl := Option.some.inj hc
      exact hPa
    · next hgoes =>
      obtain ⟨b, hb, hc⟩ := Option.bind_eq_some_iff.mp hc
      have hPb : P b := by
        unfold sendWindowCounting at hb
        split at hb
        · obtain ⟨d, hd, hb⟩ := Option.bind_eq_some_iff.mp hb
          have hPd := sendLoopCounting_rule hnext hPa hgoes hd
          split at hb
          · obtain rfl := Option.some.inj hb
            exact hPd
          · obtain rfl := Option.some.inj hb
            exact hturn d hPd
        · obtain rfl := Option.some.inj hb
          exact hPa
      split at hc
      · obtain rfl := Option.some.inj hc
        exact hPb
      · obtain ⟨q, hq, rfl⟩ := recording_eq_some_iff.mp hc
        exact htime b q hPb hq
  · obtain rfl := Option.some.inj hc
    exact h

/-- A packet sent on a NACK is counted, and the NACK is answered by it. -/
theorem SenderLedger.retransmitNack (h : SenderLedger reads s stats)
    (hs : s.status ≠ .absentLookup) (hm : retransmitNack crc32 s = some m) :
    SenderLedger reads m (countNackAnswer s stats m) := by
  have hrequested := h.requested
  unfold countNackAnswer
  rcases retransmitNack_lookup crc32 hm with
    ⟨hidle, rfl⟩ | ⟨hpending, ⟨-, rfl⟩ | ⟨i, p, pkt, payload, -, -, -, -, rfl⟩⟩
  · rw [if_neg (by omega)]
    exact h
  · rw [if_neg fun hsent => hsent.2.2 rfl]
    exact h.congr rfl rfl
  · rw [if_pos ⟨hpending.1, hpending.2, hs⟩]
    rw [if_pos (show NackPending s from hpending)] at hrequested
    refine ⟨?_, ?_, ?_, h.ignored, h.received⟩
    · simp [transmitted, h.sent]
    · simp [transmitted, h.answers]
    · rw [if_neg fun hpending => hpending.1 rfl]
      exact hrequested

/-- A packet sent by the loop over `nextseqnum` is counted. -/
theorem SenderLedger.sendNext (h : SenderLedger reads s stats) (hs : s.status ≠ .absentLookup)
    (hm : sendNext crc32 e s = some m) : SenderLedger reads m (countNext s stats m) := by
  unfold countNext
  rcases sendNext_cases crc32 hm with ⟨-, rfl⟩ | ⟨i, p, pkt, payload, -, -, -, -, -, rfl⟩
  · rw [if_neg (not_not.mpr rfl)]
    exact h.congr rfl rfl
  · have hgoes : (sentNext crc32 e s p pkt payload).status ≠ .absentLookup := hs
    rw [if_pos hgoes]
    refine ⟨?_, ?_, h.requested, h.ignored, h.received⟩
    · simp [sentNext, restamped, transmitted, h.sent]
    · simp [sentNext, restamped, transmitted, h.answers]

/-- The timeout sends a packet that is not counted. -/
theorem SenderLedger.resendTimeout (h : SenderLedger reads s stats)
    (hm : resendTimeout crc32 s e = some m) : SenderLedger reads m stats := by
  rcases resendTimeout_cases crc32 hm with rfl | ⟨p, pkt, payload, -, -, -, -, rfl⟩
  · exact h
  · refine ⟨?_, ?_, h.requested, h.ignored, h.received⟩
    · simp [transmitted, restamped, h.sent]
    · simp [transmitted, restamped, h.answers]

/-- **The output half** keeps the books. -/
theorem SenderLedger.reply (h : SenderLedger reads c.1 c.2) (hs : c.1.status ≠ .absentLookup)
    (hc : senderReplyCounting crc32 c e = some c') : SenderLedger reads c'.1 c'.2 :=
  senderReplyCounting_rule (P := fun c => SenderLedger reads c.1 c.2)
    (fun _ _ h hs hm => h.retransmitNack hs hm) (fun _ _ h hs hm => h.sendNext hs hm)
    (fun _ h => h.congr rfl rfl) (fun _ _ h hm => h.resendTimeout hm) h hs hc

/-- It counts what is sent, and no ACK. -/
theorem ackReceived_senderReplyCounting (hs : c.1.status ≠ .absentLookup)
    (hc : senderReplyCounting crc32 c e = some c') : c'.2.ackReceived = c.2.ackReceived := by
  refine senderReplyCounting_rule (P := fun d => d.2.ackReceived = c.2.ackReceived) ?_ ?_
    (fun _ h => h) (fun _ _ h _ => h) rfl hs hc
  · intro d m h _ _
    dsimp only
    rw [countNackAnswer]
    split <;> exact h
  · intro d m h _ _
    dsimp only
    rw [countNext]
    split <;> exact h

/-! ## Runs -/

/-- An iteration of a loop that goes on. -/
theorem readWriteLoopSenderCounting_cases (hrunning : c.1.status = .running)
    (hc : readWriteLoopSenderCounting crc32 c e = some c') :
    ∃ m, senderReceive crc32 c.1 e = some m ∧ m.status ≠ .absentLookup ∧
      (c' = (m, countSenderReceive crc32 c.2 c.1 e) ∨
        senderReplyCounting crc32 (m, countSenderReceive crc32 c.2 c.1 e) e = some c') := by
  unfold readWriteLoopSenderCounting at hc
  rw [if_pos hrunning] at hc
  obtain ⟨d, hd, hc⟩ := Option.bind_eq_some_iff.mp hc
  obtain ⟨m, hm, rfl⟩ := recording_eq_some_iff.mp hd
  refine ⟨m, hm, status_senderReceive_ne crc32 hm (by rw [hrunning]; decide), ?_⟩
  split at hc
  · exact Or.inl (Option.some.inj hc).symm
  · exact Or.inr hc

/-- **One iteration** keeps the books. -/
theorem SenderLedger.step (h : SenderLedger reads c.1 c.2) (hrunning : c.1.status = .running)
    (hc : readWriteLoopSenderCounting crc32 c e = some c') :
    SenderLedger (reads + if e.readable.result.isSome then 1 else 0) c'.1 c'.2 := by
  obtain ⟨m, hm, hs, rfl | hc⟩ := readWriteLoopSenderCounting_cases hrunning hc
  · exact h.receive hm
  · exact (h.receive hm).reply hs hc

/-- The ACKs that are counted are the ones that were read. -/
theorem ackReceived_step (hrunning : c.1.status = .running)
    (hc : readWriteLoopSenderCounting crc32 c e = some c') :
    c'.2.ackReceived = (countSenderReceive crc32 c.2 c.1 e).ackReceived := by
  obtain ⟨m, -, hs, rfl | hc⟩ := readWriteLoopSenderCounting_cases hrunning hc
  · rfl
  · exact ackReceived_senderReplyCounting hs hc

/-- **The report of the sender.**  Every run of the loop has its counters, and whatever is read from
the socket, they are those of the ledger. -/
theorem senderLedger_of_run (crc32 : List UInt8 → UInt32) (file : List UInt8) (buffer : Memory)
    (freshAck : Pkt) (clockAck : UInt32) (fill : FillInputs) (s₀ : Sender)
    (hinit : Sender.init crc32 file buffer freshAck clockAck fill = some s₀)
    (es : List SenderPoll) (s : Sender)
    (hrun : Run (readWriteLoopSender crc32) (fun _ s _ => s.status = .running) s₀ es s) :
    ∃ stats, Run (readWriteLoopSenderCounting crc32) (fun _ c _ => c.1.status = .running)
        (s₀, SenderStats.init) es (s, stats) ∧ SenderLedger (datagramsOf es) s stats := by
  obtain ⟨⟨s, stats⟩, hcounting, rfl⟩ := Records.exists_run (records_readWriteLoopSender crc32)
    (s₀, SenderStats.init) hrun
  have hstart : SenderLedger (datagramsOf []) s₀ SenderStats.init :=
    senderLedger_of_starts (starts_of_init hinit).2
  refine ⟨stats, hcounting, hcounting.invariant
    (I := fun es (c : Sender × SenderStats) => SenderLedger (datagramsOf es) c.1 c.2) hstart ?_⟩
  intro es c e c' h hrunning hstep
  rw [datagramsOf, List.countP_append, List.countP_singleton]
  exact h.step hrunning hstep

/-- Packets 0 to 4, and packet 3 once more on a NACK. -/
theorem senderLedger_nack : ∃ (s : Sender) (stats : SenderStats),
    s.written.map Transmission.position = [0, 1, 2, 3, 4, 3] ∧ SenderLedger 2 s stats := by
  obtain ⟨s, hrun, hout⟩ := exists_run_of_follow (readWriteLoopSender zlibCrc32)
    (fun _ s _ => s.status = .running) (startSender [])
    [writePoll, ackPoll 1 .pollout, nackPoll 3] (fun s => s.written.map Transmission.position)
    (show _ = some [0, 1, 2, 3, 4, 3] by decide +kernel)
  obtain ⟨stats, -, hledger⟩ := senderLedger_of_run zlibCrc32 [] (fun _ => 0) blankPkt 0 blankFill
    (startSender []) (init_startSender []) _ s hrun
  exact ⟨s, stats, hout, hledger⟩

end TrtpNetwork
