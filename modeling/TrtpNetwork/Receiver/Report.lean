import TrtpNetwork.Library.Recording
import TrtpNetwork.Receiver.Bookkeeping
import TrtpNetwork.Receiver.Dangling
import TrtpNetwork.Receiver.Dispatch

/-!
# The final report of the receiver

`read_write_loop` counts what it does and prints the counters when it has left the loop.
`packet_ignored_receiver` and `packet_duplicated_receiver` are variables of `Receiver`; the others
are kept beside it here (`ReceiverStats`), with a loop that counts along
(`readWriteLoopCounting`).  The counters decide nothing, so this loop has the runs of
`readWriteLoop` and no others (`records_readWriteLoop`).

What the counters amount to is kept as a ledger (`ReceiverLedger`).  Its last line relates them to
what the receiver advertises: each packet that is counted as received is ignored, or takes one from
`free_place`, and each block that is written gives one back.  So as long as the transfer has not
ended, `data_received + free_place = packet_ignored + blocks written + realWindow`, whatever was
read and whatever the table looks like.

The runs are those of the loop with packets.  The loop with pointers has fewer, which stop where it
comes to a dangling pointer, and the ledger of each is that of one of these
(`exists_receiverLedger_of_pointers`).
-/

namespace TrtpNetwork

/-- The counters of the report that are not in `Receiver`.  The four that the report prints
besides, for sent and received FEC packets, received ACKs and recovered packets, are never counted
up, and neither is the one for received NACKs. -/
structure ReceiverStats where
  dataSent : ℕ
  dataReceived : ℕ
  dataTruncatedReceived : ℕ
  ackSent : ℕ
  nackSent : ℕ
  deriving DecidableEq

/-- All counters start at 0. -/
def ReceiverStats.init : ReceiverStats := ⟨0, 0, 0, 0, 0⟩

/-! ## Counting -/

/-- What is counted of a packet that was read: each one, and a truncated one if it is bad. -/
def countPacket (stats : ReceiverStats) (decoded : PktStatusCode × Pkt) : ReceiverStats :=
  { stats with
    dataReceived := stats.dataReceived + 1
    dataTruncatedReceived :=
      if (decoded.1 ≠ .pktOk ∨ decoded.2.type = .nack) ∧ decoded.2.tr = 1 then
        stats.dataTruncatedReceived + 1
      else stats.dataTruncatedReceived }

/-- The counters behind `sendNack`. -/
def countNack (stats : ReceiverStats) (nack : ℤ) : ReceiverStats :=
  if nack ≠ -1 then { stats with nackSent := stats.nackSent + 1, dataSent := stats.dataSent + 1 }
  else stats

/-- The counters behind `sendAck`, which finds no NACK pending. -/
def countAck (stats : ReceiverStats) (partialAck : ℤ) : ReceiverStats :=
  if partialAck ≠ -1 ∧ fullAck = -1 then
    { stats with ackSent := stats.ackSent + 1, dataSent := stats.dataSent + 1 }
  else stats

/-- The counters behind the output half that starts from `m`. -/
def countReply (stats : ReceiverStats) (m : Receiver) (e : ReceiverPoll) : ReceiverStats :=
  match e.writable with
  | .pollout => countAck (countNack stats m.nack) m.partialAck
  | _ => stats

variable (crc32 : List UInt8 → UInt32)

/-- The counters behind the input half that starts from `r`. -/
def countReceive (stats : ReceiverStats) (r : Receiver) (e : ReceiverPoll) : ReceiverStats :=
  match e.readable with
  | .pollin result => countPacket stats (decodeRead crc32 r.buffer result e.beyond e.freshRcv)
  | _ => stats

/-- The input half with its counters. -/
def receiveCounting (e : ReceiverPoll) :
    Receiver × ReceiverStats → Option (Receiver × ReceiverStats) :=
  recording (fun r => receive crc32 r e) fun r stats _ => countReceive crc32 stats r e

/-- The output half with its counters. -/
def replyCounting (e : ReceiverPoll) :
    Receiver × ReceiverStats → Option (Receiver × ReceiverStats) :=
  recording (fun m => reply crc32 m e) fun m stats _ => countReply stats m e

/-- **One iteration of `read_write_loop`** with its counters. -/
def readWriteLoopCounting (c : Receiver × ReceiverStats) (e : ReceiverPoll) :
    Option (Receiver × ReceiverStats) :=
  if c.1.status = .running then do
    let c ← receiveCounting crc32 e c
    if c.1.status = .endOfData then some c else replyCounting crc32 e c
  else some c

/-- The lines that are printed when the loop was left. -/
def receiverReport (c : Receiver × ReceiverStats) : List (String × ℕ) :=
  [("data_sent", c.2.dataSent),
    ("data_received", c.2.dataReceived),
    ("data_truncated_received", c.2.dataTruncatedReceived),
    ("fec_sent", 0),
    ("fec_received_receiver", 0),
    ("ack_sent_receiver", c.2.ackSent),
    ("ack_received_receiver", 0),
    ("nack_sent", c.2.nackSent),
    ("nack_received", 0),
    ("packet_ignored_receiver", c.1.packetIgnored),
    ("packet_duplicated_receiver", c.1.packetDuplicated),
    ("packet_recovered_receiver", 0)]

variable {crc32} {r m r' : Receiver} {e : ReceiverPoll} {stats : ReceiverStats}
  {c c' : Receiver × ReceiverStats}

/-! ## The ledger -/

/-- The number of packets read in some iterations. -/
def readsOf (es : List ReceiverPoll) : ℕ := es.countP fun e => e.readable.result.isSome

/-- What the counters say, after `reads` packets were read. -/
structure ReceiverLedger (reads : ℕ) (r : Receiver) (stats : ReceiverStats) : Prop where
  received : stats.dataReceived = reads
  sent : stats.dataSent = r.written.length
  acks : stats.ackSent = r.written.countP fun w => w.1.type = .ack
  nacks : stats.nackSent = r.written.countP fun w => w.1.type = .nack
  replies : stats.dataSent = stats.ackSent + stats.nackSent
  ignored : stats.dataTruncatedReceived + r.packetDuplicated ≤ r.packetIgnored
  /-- While the loop goes on. -/
  balance : r.status ≠ .endOfData →
    stats.dataReceived + r.freePlace = r.packetIgnored + r.stdout.length + realWindow
  /-- At the end the leading packets were written out and left where they are. -/
  closing : r.status = .endOfData → ∃ n, closingRun r.listPkt = some n ∧
    stats.dataReceived + r.freePlace + n =
      r.packetIgnored + r.stdout.length + realWindow + 1

theorem receiverLedger_init (buffer : Memory) :
    ReceiverLedger 0 (Receiver.init buffer) ReceiverStats.init where
  received := rfl
  sent := rfl
  acks := rfl
  nacks := rfl
  replies := rfl
  ignored := Nat.le_refl 0
  balance := fun _ => rfl
  closing := fun hend => by cases hend

/-! ## The input half -/

theorem length_stdout_of_printSlots {is : List ℕ} (h : is.foldlM printSlot r = some m) :
    m.stdout.length = r.stdout.length + is.length := by
  induction is using List.reverseRecOn generalizing m with
  | nil =>
    obtain rfl := Option.some.inj h
    rfl
  | append_singleton is i ih =>
    rw [foldlM_snoc] at h
    obtain ⟨q, hq, hlast⟩ := Option.bind_eq_some_iff.mp h
    obtain ⟨-, bytes, -, -, rfl⟩ := printSlot_cases hlast
    simp [ih hq, Nat.add_assoc]

/-- The end of the transfer writes as many blocks as it finds packets in front. -/
theorem closeTransfer_length {pkt : Pkt} (h : closeTransfer r pkt = some m) :
    ∃ n out, closingRun r.listPkt = some n ∧ out.length = r.stdout.length + n ∧
      m = { r with stdout := out, status := .endOfData } := by
  obtain ⟨n, out, hn, -, rfl⟩ := closeTransfer_cases h
  refine ⟨n, out, hn, ?_, rfl⟩
  obtain ⟨n', hn', h⟩ := Option.bind_eq_some_iff.mp h
  obtain rfl := Option.some.inj (hn.symm.trans hn')
  obtain ⟨q, hq, h⟩ := Option.bind_eq_some_iff.mp h
  obtain ⟨-, -, h⟩ := Option.bind_eq_some_iff.mp h
  have hout := congrArg Receiver.stdout (Option.some.inj h)
  rw [← show q.stdout = out from hout, length_stdout_of_printSlots hq, List.length_range]

/-- **What a packet does to the books.**  A bad one is ignored.  A good one ends the transfer, takes
a slot, or is ignored as a duplicate. -/
theorem handlePacket_books {decoded : PktStatusCode × Pkt} (h : handlePacket r decoded = some m) :
    (decoded.1 ≠ .pktOk ∨ decoded.2.type = .nack) ∧ m = badPacket r decoded.2 ∨
      ¬ (decoded.1 ≠ .pktOk ∨ decoded.2.type = .nack) ∧ m.written = r.written ∧
        ((∃ n, closingRun m.listPkt = some n ∧ m.stdout.length = r.stdout.length + n ∧
            m.status = .endOfData ∧ m.freePlace = r.freePlace ∧
            m.packetIgnored = r.packetIgnored ∧ m.packetDuplicated = r.packetDuplicated) ∨
          m.stdout = r.stdout ∧ m.status = r.status ∧
            (m.freePlace = r.freePlace - 1 ∧ m.packetIgnored = r.packetIgnored ∧
                m.packetDuplicated = r.packetDuplicated ∨
              m.freePlace = r.freePlace ∧ m.packetIgnored = r.packetIgnored + 1 ∧
                m.packetDuplicated = r.packetDuplicated + 1)) := by
  rw [handlePacket] at h
  split at h
  · next hbad => exact Or.inl ⟨hbad, (Option.some.inj h).symm⟩
  · next hgood =>
    refine Or.inr ⟨hgood, ?_⟩
    rw [goodPacket] at h
    obtain ⟨t, ht⟩ := exists_stamped r decoded.2.timestamp
    simp only [ht] at h
    split at h
    · obtain ⟨n, out, hn, hout, rfl⟩ := closeTransfer_length h
      exact ⟨rfl, Or.inl ⟨n, hn, hout, rfl, rfl, rfl, rfl⟩⟩
    · obtain ⟨k, -, ⟨-, rfl⟩ | ⟨-, rfl⟩⟩ := placePacket_cases h
      · exact ⟨rfl, Or.inr ⟨rfl, rfl, Or.inl ⟨rfl, rfl, rfl⟩⟩⟩
      · exact ⟨rfl, Or.inr ⟨rfl, rfl, Or.inr ⟨rfl, rfl, rfl⟩⟩⟩

/-- Reading a packet keeps the books. -/
theorem ReceiverLedger.handlePacket {reads : ℕ} (h : ReceiverLedger reads r stats)
    (hrunning : r.status = .running) {decoded : PktStatusCode × Pkt}
    (hm : handlePacket r decoded = some m) :
    ReceiverLedger (reads + 1) m (countPacket stats decoded) := by
  have hreceived := h.received
  have hignored := h.ignored
  have hbalance := h.balance (by rw [hrunning]; decide)
  rcases handlePacket_books hm with ⟨hbad, rfl⟩ | ⟨hgood, hwritten, hrest⟩
  · refine ⟨?_, h.sent, h.acks, h.nacks, h.replies, ?_, fun _ => ?_, fun hend => ?_⟩
    · simp [countPacket, hreceived]
    · simp only [countPacket, badPacket]
      split <;> omega
    · simp only [countPacket, badPacket]
      omega
    · rw [show (badPacket r decoded.2).status = r.status from rfl, hrunning] at hend
      cases hend
  · have htruncated : (countPacket stats decoded).dataTruncatedReceived =
        stats.dataTruncatedReceived := if_neg fun hbad => hgood hbad.1
    have hcount : (countPacket stats decoded).dataReceived = stats.dataReceived + 1 := rfl
    have hsent := h.sent
    have hacks := h.acks
    have hnacks := h.nacks
    rw [← hwritten] at hsent hacks hnacks
    rcases hrest with ⟨n, hn, hout, hend, hfree, hign, hdup⟩ | ⟨hout, hstatus, hplaced⟩
    · refine ⟨by rw [hcount, hreceived], hsent, hacks, hnacks, h.replies, ?_,
        fun hgoes => absurd hend hgoes, fun _ => ⟨n, hn, ?_⟩⟩
      · rw [htruncated, hign, hdup]
        exact hignored
      · rw [hcount, hfree, hign, hout]
        omega
    · have hgoes : m.status ≠ .endOfData := by
        rw [hstatus, hrunning]
        decide
      refine ⟨by rw [hcount, hreceived], hsent, hacks, hnacks, h.replies, ?_, fun _ => ?_,
        fun hend => absurd hend hgoes⟩
      · rw [htruncated]
        omega
      · rw [hcount, hout]
        omega

/-- **The input half** keeps the books. -/
theorem ReceiverLedger.receive {reads : ℕ} (h : ReceiverLedger reads r stats)
    (hrunning : r.status = .running) (hm : receive crc32 r e = some m) :
    ReceiverLedger (reads + if e.readable.result.isSome then 1 else 0) m
      (countReceive crc32 stats r e) := by
  rcases receive_readable_cases crc32 hm with ⟨he, rfl⟩ | ⟨result, he, hm⟩ | ⟨he, rfl⟩
  · rw [countReceive, he]
    exact h
  · have hbuffer : ReceiverLedger reads { r with buffer := readInto r.buffer result } stats :=
      ⟨h.received, h.sent, h.acks, h.nacks, h.replies, h.ignored, h.balance, h.closing⟩
    rw [countReceive, he]
    exact hbuffer.handlePacket hrunning hm
  · rw [countReceive, he]
    exact ⟨h.received, h.sent, h.acks, h.nacks, h.replies, h.ignored,
      fun _ => h.balance (by rw [hrunning]; decide), fun hend => by cases hend⟩

/-! ## The output half -/

/-- A NACK is counted as one. -/
theorem ReceiverLedger.sendNack {reads : ℕ} (h : ReceiverLedger reads m stats) {fresh : Pkt}
    {q : Receiver} (hq : sendNack crc32 m fresh = some q) :
    ReceiverLedger reads q (countNack stats m.nack) ∧ q.nack = -1 ∧
      q.partialAck = m.partialAck ∧ q.status = m.status := by
  rcases sendNack_cases crc32 hq with ⟨hnack, rfl⟩ | ⟨hnack, rfl⟩
  · rw [countNack, if_neg (not_not.mpr hnack)]
    exact ⟨h, hnack, rfl, rfl⟩
  · rw [countNack, if_pos hnack]
    refine ⟨⟨h.received, ?_, ?_, ?_, ?_, h.ignored, h.balance, h.closing⟩, rfl, rfl, rfl⟩
    · simp [h.sent]
    · simp [h.acks, nackPkt, controlPkt]
    · simp [h.nacks, nackPkt, controlPkt]
    · have := h.replies
      dsimp only
      omega

/-- An ACK is counted as one, and what the flush frees has been written. -/
theorem ReceiverLedger.sendAck {reads : ℕ} (h : ReceiverLedger reads m stats)
    (hgoes : m.status ≠ .endOfData) (hnack : m.nack = -1) {fresh : Pkt}
    (hstep : sendAck crc32 m fresh = some r') :
    ReceiverLedger reads r' (countAck stats m.partialAck) := by
  rcases sendAck_cases crc32 hstep hnack with ⟨hack, rfl⟩ | ⟨hack, s, bytes, -, -, rfl⟩
  · rw [countAck, if_neg fun hpending => hpending.1 hack]
    exact h
  · have hpending : m.partialAck ≠ -1 ∧ fullAck = -1 := ⟨hack, rfl⟩
    rw [countAck, if_pos hpending]
    refine ⟨h.received, ?_, ?_, ?_, ?_, h.ignored, fun _ => ?_, fun hend => absurd hend hgoes⟩
    · simp [h.sent]
    · simp [h.acks, ackPkt, controlPkt]
    · simp [h.nacks, ackPkt, controlPkt]
    · have := h.replies
      dsimp only
      omega
    · have := h.balance hgoes
      simp only [List.length_append, List.length_map, List.length_range, Nat.cast_add]
      omega

/-- **The output half** keeps the books. -/
theorem ReceiverLedger.reply {reads : ℕ} (h : ReceiverLedger reads m stats)
    (hgoes : m.status ≠ .endOfData) (hrep : reply crc32 m e = some r') :
    ReceiverLedger reads r' (countReply stats m e) := by
  rcases reply_cases crc32 hrep with ⟨hout, status, rfl⟩ | ⟨hout, q, hq, hack⟩
  · have hcount : countReply stats m e = stats := by
      unfold countReply
      cases hw : e.writable with
      | idle => rfl
      | pollout => exact absurd hw hout
      | other => rfl
    have hstatus := status_of_reply crc32 hrep
    have hnot : status ≠ .endOfData := by
      rintro rfl
      dsimp only at hstatus
      split at hstatus
      · cases hstatus
      · exact hgoes hstatus.symm
    rw [hcount]
    exact ⟨h.received, h.sent, h.acks, h.nacks, h.replies, h.ignored, fun _ => h.balance hgoes,
      fun hend => absurd hend hnot⟩
  · obtain ⟨hsent, hnack, hpending, hstatus⟩ := h.sendNack hq
    have hrest := hsent.sendAck (hstatus ▸ hgoes) hnack hack
    rw [hpending] at hrest
    rw [countReply, hout]
    exact hrest

/-! ## Runs -/

/-- The loop that counts, by what the loop does. -/
theorem readWriteLoopCounting_cases (h : readWriteLoopCounting crc32 c e = some c') :
    c.1.status ≠ .running ∧ c' = c ∨ c.1.status = .running ∧ ∃ m, receive crc32 c.1 e = some m ∧
      (m.status = .endOfData ∧ c' = (m, countReceive crc32 c.2 c.1 e) ∨
        m.status ≠ .endOfData ∧ ∃ r', reply crc32 m e = some r' ∧
          c' = (r', countReply (countReceive crc32 c.2 c.1 e) m e)) := by
  rw [readWriteLoopCounting] at h
  split at h
  · next hrunning =>
    obtain ⟨d, hd, hrest⟩ := Option.bind_eq_some_iff.mp h
    obtain ⟨m, hm, rfl⟩ := recording_eq_some_iff.mp hd
    refine Or.inr ⟨hrunning, m, hm, ?_⟩
    split at hrest
    · next hend => exact Or.inl ⟨hend, (Option.some.inj hrest).symm⟩
    · next hgoes => exact Or.inr ⟨hgoes, recording_eq_some_iff.mp hrest⟩
  · next hidle => exact Or.inl ⟨hidle, (Option.some.inj h).symm⟩

/-- **The counters decide nothing.** -/
theorem records_readWriteLoop (crc32 : List UInt8 → UInt32) (e : ReceiverPoll) :
    Records Prod.fst (fun c => readWriteLoopCounting crc32 c e)
      fun r => readWriteLoop crc32 r e := by
  have hreceive : Records Prod.fst (receiveCounting crc32 e) fun r => receive crc32 r e :=
    Records.recording _ _
  have hreply : Records Prod.fst (replyCounting crc32 e) fun m => reply crc32 m e :=
    Records.recording _ _
  have hrest := Records.ite (p := fun m : Receiver => m.status = .endOfData) Records.some hreply
  exact Records.ite (p := fun r : Receiver => r.status = .running) (hreceive.bind hrest)
    Records.some

/-- **One iteration** keeps the books. -/
theorem ReceiverLedger.step {reads : ℕ} (h : ReceiverLedger reads c.1 c.2)
    (hrunning : c.1.status = .running) (hstep : readWriteLoopCounting crc32 c e = some c') :
    ReceiverLedger (reads + if e.readable.result.isSome then 1 else 0) c'.1 c'.2 := by
  rcases readWriteLoopCounting_cases hstep with
    ⟨hidle, -⟩ | ⟨-, m, hm, ⟨-, rfl⟩ | ⟨hgoes, r', hr', rfl⟩⟩
  · exact absurd hrunning hidle
  · exact h.receive hrunning hm
  · exact (h.receive hrunning hm).reply hgoes hr'

/-- The loop that counts keeps its ledger. -/
theorem receiverLedger_of_counting {buffer : Memory} {es : List ReceiverPoll}
    (hrun : Run (readWriteLoopCounting crc32) (fun _ c _ => c.1.status = .running)
      (Receiver.init buffer, ReceiverStats.init) es c) : ReceiverLedger (readsOf es) c.1 c.2 := by
  have hinit : ReceiverLedger (readsOf []) (Receiver.init buffer) ReceiverStats.init :=
    receiverLedger_init buffer
  refine hrun.invariant
    (I := fun es (c : Receiver × ReceiverStats) => ReceiverLedger (readsOf es) c.1 c.2) hinit ?_
  intro es c e c' h hrunning hstep
  rw [readsOf, List.countP_append, List.countP_singleton]
  exact h.step hrunning hstep

theorem exists_receiverLedger {buffer : Memory} {es : List ReceiverPoll} {r : Receiver}
    (hrun : Run (readWriteLoop crc32) (fun _ r _ => r.status = .running) (Receiver.init buffer)
      es r) :
    ∃ stats, Run (readWriteLoopCounting crc32) (fun _ c _ => c.1.status = .running)
        (Receiver.init buffer, ReceiverStats.init) es (r, stats) ∧
      ReceiverLedger (readsOf es) r stats := by
  obtain ⟨⟨r, stats⟩, hcounting, rfl⟩ := Records.exists_run (records_readWriteLoop crc32)
    (Receiver.init buffer, ReceiverStats.init) hrun
  exact ⟨stats, hcounting, receiverLedger_of_counting hcounting⟩

/-- **The report of the receiver.**  Every run of the loop has its counters, and whatever is read
from the socket, they are those of the ledger. -/
theorem receiverLedger_of_run (crc32 : List UInt8 → UInt32) (buffer : Memory)
    (es : List ReceiverPoll) (r : Receiver)
    (hrun : Run (readWriteLoop crc32) (fun _ r _ => r.status = .running) (Receiver.init buffer)
      es r) :
    ∃ stats, Run (readWriteLoopCounting crc32) (fun _ c _ => c.1.status = .running)
        (Receiver.init buffer, ReceiverStats.init) es (r, stats) ∧
      ReceiverLedger (readsOf es) r stats :=
  exists_receiverLedger hrun

/-- The same of the loop with pointers, however it flushes. -/
theorem exists_receiverLedger_of_pointers {buffer : Memory} {es : List ReceiverPoll}
    {q : PointerReceiver}
    (hrun : Run (Pointers.readWriteLoop crc32) (fun _ q _ => q.vars.status = .running)
      (PointerReceiver.init buffer) es q) :
    ∃ r stats, SameVars q r ∧
      Run (readWriteLoopCounting crc32) (fun _ c _ => c.1.status = .running)
        (Receiver.init buffer, ReceiverStats.init) es (r, stats) ∧
      ReceiverLedger (readsOf es) r stats := by
  obtain ⟨r, hruns, hviews⟩ :=
    exists_viewsLive_of_run (P := fun r => r.status = .running) (fun _ _ h => h) hrun
  obtain ⟨stats, hcounting, hledger⟩ := exists_receiverLedger hruns
  exact ⟨r, stats, hviews.vars, hcounting, hledger⟩

/-- Packet 0, and a NACK that is ignored. -/
theorem receiverLedger_nack : ∃ (r : Receiver) (stats : ReceiverStats),
    r.stdout = [[0]] ∧ r.packetIgnored = 1 ∧ ReceiverLedger 2 r stats := by
  obtain ⟨r, hrun, hview⟩ := exists_run_of_follow (readWriteLoop zlibCrc32)
    (fun _ r _ => r.status = .running) (Receiver.init fun _ => 0)
    [(streamDelivery zlibCrc32 countingStream blankPkt 0 .pollout).1, controlPoll .nack]
    (fun r => (r.stdout, r.packetIgnored)) (show _ = some ([[0]], 1) by decide +kernel)
  obtain ⟨hout, hignored⟩ := Prod.mk.inj hview
  obtain ⟨stats, -, hledger⟩ := receiverLedger_of_run zlibCrc32 _ _ r hrun
  exact ⟨r, stats, hout, hignored, hledger⟩

/-- **No packet is unaccounted for.**  In every run whose flushes take every packet along, whatever
is read, each packet that was read has been ignored, was written out, or is in the table, as long as
the transfer has not ended. -/
theorem accountsForEach_of_run (crc32 : List UInt8 → UInt32) (buffer : Memory)
    (es : List ReceiverPoll) (r : Receiver)
    (hrun : Run (readWriteLoop crc32)
      (fun _ r e => r.status = .running ∧ FlushesWhole crc32 r e) (Receiver.init buffer) es r)
    (hgoes : r.status ≠ .endOfData) :
    readsOf es + freeCount r.listPkt realWindow =
      r.packetIgnored + r.stdout.length + realWindow := by
  have hcounts : CountsFree r := by
    refine hrun.invariant (I := fun _ r => CountsFree r) (countsFree_init buffer) ?_
    intro es r e r' h hok hstep
    obtain ⟨hbehind, hiff⟩ := h.step hstep
    exact ⟨(hiff.mpr hok.2).1, hbehind⟩
  have hplain := hrun.mono (fun _ _ _ hok => hok.1 : ∀ es r e, _ → r.status = .running)
  obtain ⟨c, hcounting, rfl⟩ := Records.exists_run (records_readWriteLoop crc32)
    (Receiver.init buffer, ReceiverStats.init) hplain
  have hledger := receiverLedger_of_counting hcounting
  have hbalance := hledger.balance hgoes
  rw [hledger.received, hcounts.count] at hbalance
  exact_mod_cast hbalance

/-- Three packets, two of them in the wrong order, and the flushes of all. -/
theorem accountsForEach_swapped : ∃ r : Receiver, r.stdout = [[0], [1], [2]] ∧
    readsOf (swappedDeliveries.map Prod.fst) + freeCount r.listPkt realWindow =
      r.packetIgnored + r.stdout.length + realWindow := by
  obtain ⟨r, hrun, hview⟩ := exists_run_of_follow (readWriteLoop zlibCrc32)
    (fun _ r e => r.status = .running ∧ FlushesWhole zlibCrc32 r e) (Receiver.init fun _ => 0)
    (swappedDeliveries.map Prod.fst) (fun r => (r.stdout, r.status))
    (show _ = some ([[0], [1], [2]], .running) by decide +kernel)
  obtain ⟨hout, hrunning⟩ := Prod.mk.inj hview
  exact ⟨r, hout, accountsForEach_of_run zlibCrc32 _ _ r hrun (by rw [hrunning]; decide)⟩

end TrtpNetwork
