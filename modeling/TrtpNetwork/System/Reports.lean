import TrtpNetwork.Receiver.Report
import TrtpNetwork.Sender.Report
import TrtpNetwork.System.Completion

/-!
# The two reports of a transfer

Each program prints its report by its own counters.  Over a perfect link the two reports describe
the same transfer (`reportsAgree_of_run`): the counters for everything that can go wrong are 0 on
both sides, the acknowledgements that the sender counts are among those the receiver counts, these
are among the packets it counts, and these are among the packets the sender counts, which is at most
four ahead of its acknowledgements.

When the transfer has ended, the receiver's report depends on the length of the file alone: one ACK
for each chunk, and one packet more than that, the empty one at the end (`chunkCount`).
-/

namespace TrtpNetwork

/-- A state of the network, with the counters of both sides. -/
structure CountedNetwork where
  sender : Sender × SenderStats
  receiver : Receiver × ReceiverStats

/-- The network without its counters. -/
def CountedNetwork.network (n : CountedNetwork) : Network := ⟨n.sender.1, n.receiver.1⟩

/-- The counters at the start. -/
def Network.counted (n : Network) : CountedNetwork :=
  ⟨(n.sender, SenderStats.init), (n.receiver, ReceiverStats.init)⟩

/-- The number of chunks of a file. -/
def chunkCount (file : List UInt8) : ℕ := (file.length + (chunkSize - 1)) / chunkSize

variable (crc32 : List UInt8 → UInt32) (file : List UInt8)

/-- One iteration of the side whose event it is, with its counters. -/
def networkStepCounting (n : CountedNetwork) : Event → Option CountedNetwork
  | .sender e => (readWriteLoopSenderCounting crc32 n.sender e).map fun c => { n with sender := c }
  | .receiver e => (readWriteLoopCounting crc32 n.receiver e).map fun c => { n with receiver := c }

/-- What the two reports say, where the sender sent so many packets and read so many ACKs, and the
receiver read so many packets and sent so many ACKs. -/
structure ReportsAgree (n : CountedNetwork) (sent acked received acks : ℕ) : Prop where
  sender : senderReport n.sender.2 =
    [("data_sent", sent), ("data_received", 0), ("data_truncated_receive", 0), ("fec_sent", 0),
      ("fec_received", 0), ("ack_sent", 0), ("ack_received", acked), ("nack_sent", 0),
      ("nack_received", 0), ("packet_ignored", 0), ("min_rtt", 9999999), ("max_rttt", 0),
      ("packet_retransmitted", 0)]
  receiver : receiverReport n.receiver =
    [("data_sent", acks), ("data_received", received), ("data_truncated_received", 0),
      ("fec_sent", 0), ("fec_received_receiver", 0), ("ack_sent_receiver", acks),
      ("ack_received_receiver", 0), ("nack_sent", 0), ("nack_received", 0),
      ("packet_ignored_receiver", 0), ("packet_duplicated_receiver", 0),
      ("packet_recovered_receiver", 0)]
  acked_le : acked ≤ acks
  received_le : received ≤ sent
  sent_le : sent ≤ acked + 4
  /-- Before the end every packet was acknowledged when it was read. -/
  goes : n.receiver.1.status ≠ .endOfData → acks = received ∧ received ≤ chunkCount file
  ended : n.receiver.1.status = .endOfData →
    acks = chunkCount file ∧ received = chunkCount file + 1

variable {crc32 file} {n n' : CountedNetwork} {t : Transfer} {es : List Event}

/-- The counters of both sides decide nothing. -/
theorem records_networkStep (crc32 : List UInt8 → UInt32) (e : Event) :
    Records CountedNetwork.network (fun n => networkStepCounting crc32 n e)
      fun n => networkStep crc32 n e := by
  intro n
  rcases e with e | e
  · have h := records_readWriteLoopSender crc32 e n.sender
    dsimp only at h
    simp only [networkStepCounting, networkStep, CountedNetwork.network, ← h, Option.map_map]
    rfl
  · have h := records_readWriteLoop crc32 e n.receiver
    dsimp only at h
    simp only [networkStepCounting, networkStep, CountedNetwork.network, ← h, Option.map_map]
    rfl

theorem lt_chunkCount_iff {i : ℕ} : i < chunkCount file ↔ chunk file i ≠ [] := by
  rw [ne_eq, chunk_eq_nil_iff, not_le, chunkCount, Nat.lt_iff_add_one_le,
    Nat.le_div_iff_mul_le (by decide)]
  unfold chunkSize
  omega

theorem acksRead_snoc (es : List Event) (e : Event) :
    acksRead (es ++ [e]) = acksRead es + if e.senderReads then 1 else 0 := by
  rw [acksRead, List.countP_append, List.countP_singleton, acksRead]

/-! ## One iteration -/

/-- The ledgers of both sides, and each datagram the sender read was an ACK. -/
structure NetworkLedger (es : List Event) (n : CountedNetwork) : Prop where
  sender : SenderLedger (acksRead es) n.sender.1 n.sender.2
  receiver : ReceiverLedger (packetsRead es) n.receiver.1 n.receiver.2
  ackReceived : n.sender.2.ackReceived = acksRead es

/-- Over a perfect link the sender reads ACKs only. -/
theorem InStep.ackRead {n : Network} (h : InStep crc32 file n t) {e : SenderPoll}
    (hreads : ∀ result ∈ e.readable.result, e.writable = .pollout ∧
      ∃ a ∈ n.receiver.written[t.acked]?, result = .bytes a.2)
    (hyes : e.readable.result.isSome) : ∃ ack, ackRead crc32 n.sender e = some ack := by
  obtain ⟨result, hresult⟩ := Option.isSome_iff_exists.mp hyes
  obtain ⟨-, a, ha, rfl⟩ := hreads result hresult
  obtain ⟨ack, hack, -⟩ := ackRead_of_isAck (h.ack t.acked a ha)
    (Readable.result_eq_some_iff.mp hresult) n.sender
  exact ⟨ack, hack⟩

/-- **One iteration** of either side keeps the books. -/
theorem NetworkLedger.step (h : NetworkLedger es n)
    (hin : InStep crc32 file n.network t) (hruns : Transfer.Runs reach (es.map Event.move) t)
    {e : Event} (hlink : PerfectLink crc32 es n.network e)
    (hstep : networkStepCounting crc32 n e = some n') : NetworkLedger (es ++ [e]) n' := by
  rcases e with e | e
  · obtain ⟨c, hc, rfl⟩ := Option.map_eq_some_iff.mp hstep
    obtain ⟨hrunning, hother, hreads, -⟩ := hlink
    rw [acksRead_eq, ← (Transfer.counts_of_run hruns).1] at hreads
    refine ⟨?_, ?_, ?_⟩
    · rw [acksRead_snoc]
      exact h.sender.step hrunning hc
    · rw [packetsRead_snoc]
      exact h.receiver
    · rw [acksRead_snoc, ackReceived_step hrunning hc, ← h.ackReceived]
      by_cases hyes : e.readable.result.isSome = true
      · obtain ⟨ack, hack⟩ := hin.ackRead hreads hyes
        have hcount := countSenderReceive_of_ackRead hack n.sender.2
        rw [show (Event.sender e).senderReads = true from hyes, if_pos rfl]
        exact congrArg SenderStats.ackReceived hcount
      · have hidle := readable_eq_idle hother (Option.not_isSome_iff_eq_none.mp hyes)
        rw [show (Event.sender e).senderReads = e.readable.result.isSome from rfl, if_neg hyes,
          countSenderReceive, hidle]
        rfl
  · obtain ⟨c, hc, rfl⟩ := Option.map_eq_some_iff.mp hstep
    refine ⟨?_, ?_, ?_⟩
    · rw [acksRead_snoc]
      exact h.sender
    · rw [packetsRead_snoc]
      exact h.receiver.step hlink.1 hc
    · rw [acksRead_snoc]
      exact h.ackReceived

/-! ## The end of the transfer -/

/-- What was read and sent when the transfer has ended. -/
structure EndCounts (file : List UInt8) (es : List Event) (n : Network) : Prop where
  received : packetsRead es = chunkCount file + 1
  acks : n.receiver.written.length = chunkCount file
  acked : acksRead es ≤ chunkCount file

/-- **The first empty packet** comes behind the chunks of the file, and is not acknowledged. -/
theorem endCounts_of_run {s₀ : Sender} (hgen : Genuine crc32 file s₀) (hstart : Starts s₀)
    {bufferR : Memory} {n : Network} (hrun : Run (networkStep crc32) (PerfectLink crc32)
      ⟨s₀, Receiver.init bufferR⟩ es n) (hend : n.receiver.status = .endOfData) :
    EndCounts file es n := by
  induction hrun with
  | nil => cases hend
  | @snoc es n n' e hruns hlink hstep ih =>
    obtain ⟨t, htransfer, hin⟩ := transfer_of_run hgen hstart hruns
    obtain ⟨hacked, hdelivered⟩ := Transfer.counts_of_run htransfer
    rw [← acksRead_eq] at hacked
    rw [← packetsRead_eq] at hdelivered
    rcases e with e | e
    · obtain ⟨s, -, rfl⟩ := Option.map_eq_some_iff.mp hstep
      have hbefore := ih hend
      refine ⟨?_, hbefore.acks, ?_⟩
      · rw [packetsRead_snoc]
        exact hbefore.received
      · rw [acksRead_snoc]
        by_cases hyes : (Event.sender e).senderReads = true
        · obtain ⟨result, hresult⟩ := Option.isSome_iff_exists.mp hyes
          obtain ⟨-, a, ha, -⟩ := hlink.2.2.1 result hresult
          have hlt := (List.getElem?_eq_some_iff.mp ha).1
          rw [hbefore.acks] at hlt
          rw [if_pos hyes]
          exact hlt
        · rw [if_neg hyes]
          exact hbefore.acked
    · obtain ⟨r', hr', rfl⟩ := Option.map_eq_some_iff.mp hstep
      obtain ⟨hrunning, -, hreads⟩ := hlink
      have hgoes : n.receiver.status ≠ .endOfData := by
        rw [hrunning]
        decide
      have hbefore := nonempty_of_delivered hgen hstart hruns hgoes
      rw [← hdelivered] at hreads hbefore
      obtain ⟨hiff, hwritten⟩ := hin.ends_iff hrunning hreads hr'
      obtain ⟨⟨result, he⟩, hempty⟩ := hiff.mp hend
      -- the packets before this one are the chunks of the file, all of them
      have hcount : chunkCount file = t.delivered := by
        have hle : ¬ t.delivered < chunkCount file := fun hlt => lt_chunkCount_iff.mp hlt hempty
        have hge : ∀ i < t.delivered, i < chunkCount file :=
          fun i hi => lt_chunkCount_iff.mpr (hbefore i hi)
        have hlast := hge (t.delivered - 1)
        omega
      have hyes : (Event.receiver e).receiverReads = true := by
        simp [Event.receiverReads, he, Readable.result]
      have hle := (Transfer.valid_of_run reach_mono htransfer).acked_le
      refine ⟨?_, ?_, ?_⟩
      · rw [packetsRead_snoc, if_pos hyes, ← hdelivered, hcount]
      · rw [hwritten hend, hin.length_acks hgoes, hcount]
      · rw [acksRead_snoc, ← hacked, hcount]
        exact hle

/-! ## Runs -/

/-- The counters of a sender that reads ACKs only and never sends a packet again. -/
theorem SenderLedger.faultless {reads : ℕ} {s : Sender} {stats : SenderStats}
    (h : SenderLedger reads s stats) (hacks : stats.ackReceived = reads)
    (hcause : ∀ w ∈ s.written, w.cause = .sendLoop) :
    stats = ⟨s.written.length, 0, 0, reads, 0, 0, 0⟩ := by
  have hreceived := h.received
  have hignored := h.ignored
  have hrequested := h.requested
  have hsent : stats.dataSent = s.written.length := by
    rw [h.sent, List.countP_eq_length]
    intro w hw
    rw [hcause w hw]
    decide
  rcases stats with
    ⟨dataSent, dataReceived, truncated, ackReceived, nackSent, nackReceived, ignored⟩
  simp only [SenderStats.mk.injEq] at *
  exact ⟨hsent, by omega, by omega, hacks, by omega, by omega, by omega⟩

/-- The counters of a receiver that ignores nothing and sends ACKs only. -/
theorem ReceiverLedger.faultless {reads : ℕ} {r : Receiver} {stats : ReceiverStats}
    (h : ReceiverLedger reads r stats) (hignored : r.packetIgnored = 0)
    (htype : ∀ w ∈ r.written, w.1.type = .ack) :
    stats = ⟨r.written.length, reads, 0, r.written.length, 0⟩ ∧ r.packetDuplicated = 0 := by
  have hle := h.ignored
  have hacks : stats.ackSent = r.written.length := by
    rw [h.acks, List.countP_eq_length]
    intro w hw
    rw [htype w hw]
    decide
  have hreplies := h.replies
  have hsent := h.sent
  rw [hignored] at hle
  refine ⟨?_, by omega⟩
  have hreceived := h.received
  rcases stats with ⟨dataSent, dataReceived, truncated, ackSent, nackSent⟩
  simp only [ReceiverStats.mk.injEq] at *
  exact ⟨hsent, hreceived, by omega, hacks, by omega⟩

/-- What the ledgers say of a transfer. -/
theorem NetworkLedger.reportsAgree (h : NetworkLedger es n) (hin : InStep crc32 file n.network t)
    (hruns : Transfer.Runs reach (es.map Event.move) t)
    (hgoes : n.receiver.1.status ≠ .endOfData → ∀ i < packetsRead es, chunk file i ≠ [])
    (hend : n.receiver.1.status = .endOfData → EndCounts file es n.network) :
    ReportsAgree file n n.sender.1.written.length (acksRead es) (packetsRead es)
      n.receiver.1.written.length := by
  have hv := Transfer.valid_of_run reach_mono hruns
  have hexact := hin.exactTransfer hv
  obtain ⟨hacked, hdelivered⟩ := Transfer.counts_of_run hruns
  rw [← acksRead_eq] at hacked
  rw [← packetsRead_eq] at hdelivered
  have hsent : n.sender.1.written.length = t.sent := hin.sender.toLockstep.length_written
  have hack : ∀ w ∈ n.receiver.1.written, w.1.type = .ack := by
    intro w hw
    obtain ⟨i, hi⟩ := List.mem_iff_getElem?.mp hw
    exact (hin.ack i w hi).type
  obtain ⟨hstats, hduplicated⟩ := h.receiver.faultless hexact.noDrop hack
  refine ⟨?_, ?_, ?_, ?_, ?_, fun hrunning => ⟨?_, ?_⟩, fun hended => ?_⟩
  · rw [h.sender.faultless h.ackReceived hexact.bySendLoop]
    rfl
  · rw [receiverReport, hstats, hduplicated, show n.receiver.1.packetIgnored = 0 from hexact.noDrop]
  · by_cases hended : n.receiver.1.status = .endOfData
    · have hcounts := hend hended
      rw [show n.receiver.1.written.length = chunkCount file from hcounts.acks]
      exact hcounts.acked
    · have hacks : n.receiver.1.written.length = t.delivered := hin.length_acks hended
      rw [hacks, ← hacked]
      exact hv.acked_le
  · rw [hsent, ← hdelivered]
    exact hv.delivered_le
  · rw [hsent, ← hacked]
    exact hv.sent_le.trans (reach_le_add t.acked)
  · rw [← hdelivered]
    exact hin.length_acks hrunning
  · by_contra hlt
    exact lt_irrefl _ (lt_chunkCount_iff.mpr (hgoes hrunning (chunkCount file) (by omega)))
  · exact ⟨(hend hended).acks, (hend hended).received⟩

/-- **The two reports agree.**  Every run over a perfect link has its counters, and by the reports
nothing was truncated, ignored, duplicated or sent again.  The sender's packets, the receiver's
packets, its ACKs and those the sender read are counted in this order, each at most the one before,
and at most four apart.  When the transfer has ended, the receiver has counted one ACK for each
chunk of the file and one packet more than that. -/
theorem reportsAgree_of_run (crc32 : List UInt8 → UInt32) (file : List UInt8) (buffer : Memory)
    (freshAck : Pkt) (clockAck : UInt32) (fill : FillInputs) (s₀ : Sender)
    (hinit : Sender.init crc32 file buffer freshAck clockAck fill = some s₀) (bufferR : Memory)
    (es : List Event) (n : Network)
    (hrun : Run (networkStep crc32) (PerfectLink crc32) ⟨s₀, Receiver.init bufferR⟩ es n) :
    ∃ c : CountedNetwork, c.network = n ∧
      Run (networkStepCounting crc32) (fun es c e => PerfectLink crc32 es c.network e)
        (Network.counted ⟨s₀, Receiver.init bufferR⟩) es c ∧
      ReportsAgree file c n.sender.written.length (acksRead es) (packetsRead es)
        n.receiver.written.length := by
  obtain ⟨hgen, hstart⟩ := starts_of_init hinit
  obtain ⟨c, hcounted, rfl⟩ := Records.exists_run (records_networkStep crc32)
    (Network.counted ⟨s₀, Receiver.init bufferR⟩) hrun
  have hledger : NetworkLedger es c := by
    clear hrun
    induction hcounted with
    | nil => exact ⟨senderLedger_of_starts hstart, receiverLedger_init bufferR, rfl⟩
    | snoc hruns hlink hstep ih =>
      have hplain := Records.run (records_networkStep crc32) hruns
      obtain ⟨t, htransfer, hin⟩ := transfer_of_run hgen hstart hplain
      exact ih.step hin htransfer hlink hstep
  obtain ⟨t, htransfer, hin⟩ := transfer_of_run hgen hstart hrun
  exact ⟨c, rfl, hcounted, hledger.reportsAgree hin htransfer
    (fun hgoes => nonempty_of_delivered hgen hstart hrun hgoes)
    fun hend => endCounts_of_run hgen hstart hrun hend⟩

/-- A file of one byte: five packets sent, two received, and one ACK. -/
theorem reportsAgree_oneByte :
    ∃ c : CountedNetwork, c.receiver.1.status = .endOfData ∧ ReportsAgree [65] c 5 1 2 1 := by
  obtain ⟨n, hrun, hview⟩ := exists_run_of_follow (networkStep zlibCrc32) (PerfectLink zlibCrc32)
    (startNetwork [65])
    [.sender writePoll, .receiver (dataPoll [65] 0 .pollout), .sender (ackPoll 1 .pollout),
      .receiver (dataPoll [65] 1 .pollout)]
    (fun n => (n.receiver.status, n.sender.written.length, n.receiver.written.length))
    (show _ = some (.endOfData, 5, 1) by decide +kernel)
  obtain ⟨hend, hcounts⟩ := Prod.mk.inj hview
  obtain ⟨hsent, hacks⟩ := Prod.mk.inj hcounts
  obtain ⟨c, rfl, -, hagree⟩ := reportsAgree_of_run zlibCrc32 [65] (fun _ => 0) blankPkt 0 blankFill
    _ (init_startSender [65]) (fun _ => 0) _ n hrun
  rw [hsent, hacks] at hagree
  exact ⟨c, hend, hagree⟩

end TrtpNetwork
