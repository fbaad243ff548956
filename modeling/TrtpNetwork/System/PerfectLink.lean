import TrtpNetwork.Library.SlidingWindow
import TrtpNetwork.Sender.Lockstep
import TrtpNetwork.System.LossyLink

/-!
# Exact transfer over a perfect link

On a link that is FIFO in both directions, loses nothing and copies nothing, the next datagram a
side reads is the next one in the log of the other (`PerfectLink`).  If moreover every iteration
that reads finds its socket writable, the two loops stay together in every interleaving: the sender
is in lockstep with the ACKs it read, and the receiver has written and acknowledged what it read
(`InStep`).  The special cases at number 0 are where they meet: the sender waits at each multiple of
256 for the ACK with number 0, which is the one behind which the receiver has its `base_r` at 0.

So the two loops are a sliding window whose limit is `reach` (`transfer_of_run`): each iteration is
one move of `Transfer`, whose safety says that an ACK which is read is for a packet that arrived,
and a packet which arrived was sent.  `exactTransfer_of_run` is what follows for files of every
size.
-/

namespace TrtpNetwork

/-- The sender reads a datagram. -/
def Event.senderReads : Event → Bool
  | .sender e => e.readable.result.isSome
  | .receiver _ => false

/-- The receiver reads a datagram. -/
def Event.receiverReads : Event → Bool
  | .sender _ => false
  | .receiver e => e.readable.result.isSome

/-- The number of ACKs the sender read. -/
def acksRead (es : List Event) : ℕ := es.countP Event.senderReads

/-- The number of packets the receiver read. -/
def packetsRead (es : List Event) : ℕ := es.countP Event.receiverReads

theorem packetsRead_snoc (es : List Event) (e : Event) :
    packetsRead (es ++ [e]) = packetsRead es + if e.receiverReads then 1 else 0 := by
  rw [packetsRead, List.countP_append, List.countP_singleton, packetsRead]

variable (crc32 : List UInt8 → UInt32) (file : List UInt8)

/-- An iteration of a loop that has not been left: nothing is read, or the next datagram of the
other side, and then the socket is writable.  No retransmission timeout fires. -/
def PerfectLink (es : List Event) (n : Network) : Event → Prop
  | .sender e => n.sender.status = .running ∧ e.readable ≠ .other ∧
      (∀ result ∈ e.readable.result, e.writable = .pollout ∧
        ∃ a ∈ n.receiver.written[acksRead es]?, result = .bytes a.2) ∧
      ∀ s' ∈ readWriteLoopSender crc32 n.sender e, ∀ w ∈ s'.written, w.cause ≠ .timeout
  | .receiver e => n.receiver.status = .running ∧ e.readable ≠ .other ∧
      ∀ result ∈ e.readable.result, e.writable = .pollout ∧
        ∃ w ∈ n.sender.written[packetsRead es]?, result = .bytes w.datagram

/-- The packet of the ACK an iteration reads is in the window of the table. -/
def FindsAcked (n : Network) : Event → Prop
  | .sender e => ∀ ack ∈ ackRead crc32 n.sender e,
      ∃ i, findBuffer n.sender (ackedSeqnum ack.seqnum.toNat) n.sender.window = some (some i)
  | .receiver _ => True

/-- What the transfer is exact about, in any state. -/
structure ExactTransfer (n : Network) : Prop where
  noAbsentLookup : n.sender.status ≠ .absentLookup
  sentOnce : n.sender.written.map Transmission.position = List.range n.sender.written.length
  bySendLoop : ∀ w ∈ n.sender.written, w.cause = .sendLoop
  noDrop : n.receiver.packetIgnored = 0
  output : n.receiver.status = .endOfData → n.receiver.stdout.flatten = file ∧
    ∀ i, chunk file i ≠ [] → i < n.sender.written.length

/-! ## The joint invariant -/

/-- The receiver has written and acknowledged the `j` packets it read, or it read the end of the
file. -/
def ReceivedInStep (j : ℕ) (r : Receiver) : Prop :=
  (r.status ≠ .endOfData ∧
    ∃ ds, InOrder crc32 (chunk file) ds r ∧ (arrivals ds).length = j ∧ r.partialAck = -1) ∨
  r.status = .endOfData ∧ r.stdout.flatten = file ∧ ∀ i, chunk file i ≠ [] → i < j

/-- The two sides, where the transfer has come as far as `t` says. -/
structure InStep (n : Network) (t : Transfer) : Prop where
  sender : UpToDate crc32 file t.acked t.sent n.sender
  receiver : ReceivedInStep crc32 file t.delivered n.receiver
  ack : ∀ i a, n.receiver.written[i]? = some a → IsAck crc32 i a
  acks_le : n.receiver.written.length ≤ t.delivered
  ignored : n.receiver.packetIgnored = 0

/-- What an iteration is to the transfer. -/
def Event.move : Event → Move
  | .sender e =>
    if e.readable.result.isSome then .ack else if e.writable = .pollout then .pass else .stay
  | .receiver e => if e.readable.result.isSome then .deliver else .stay

variable {crc32 file} {n n' : Network} {t : Transfer} {es : List Event}

/-- At the start. -/
theorem inStep_of_starts {s₀ : Sender} (hgen : Genuine crc32 file s₀) (h : Starts s₀)
    (buffer : Memory) : InStep crc32 file ⟨s₀, Receiver.init buffer⟩ Transfer.start where
  sender := UpToDate.of_starts hgen h
  receiver := Or.inl ⟨by simp [Receiver.init], [], inOrder_init crc32 (chunk file) buffer, rfl, rfl⟩
  ack := by simp [Receiver.init]
  acks_le := Nat.le_refl 0
  ignored := rfl

theorem readable_eq_idle {readable : Readable} (hother : readable ≠ .other)
    (hnone : readable.result = none) : readable = .idle := by
  cases readable with
  | idle => rfl
  | pollin result => cases hnone
  | other => exact absurd rfl hother

/-- **An iteration of the sender.** -/
theorem InStep.sender_step (h : InStep crc32 file n t) (hv : t.Valid reach) {e : SenderPoll}
    (hother : e.readable ≠ .other)
    (hreads : ∀ result ∈ e.readable.result, e.writable = .pollout ∧
      ∃ a ∈ n.receiver.written[t.acked]?, result = .bytes a.2)
    (htime : ∀ s' ∈ readWriteLoopSender crc32 n.sender e, ∀ w ∈ s'.written, w.cause ≠ .timeout) :
    ∃ s' t', readWriteLoopSender crc32 n.sender e = some s' ∧
      t.step reach (Event.sender e).move = some t' ∧
      InStep crc32 file { n with sender := s' } t' := by
  have hintime : ∀ s', readWriteLoopSender crc32 n.sender e = some s' → ¬ TimedOut e s' := by
    rintro s' hs' ⟨-, w, hw, hcause⟩
    exact htime s' hs' w hw hcause
  cases he : e.readable.result with
  | none =>
    have hidle := readable_eq_idle hother he
    by_cases hout : e.writable = .pollout
    · obtain ⟨s', hs', hup | hlate⟩ := h.sender.pass hidle hout
      · refine ⟨s', { t with sent := reach t.acked }, hs', ?_, hup, h.receiver, h.ack, h.acks_le,
          h.ignored⟩
        rw [Event.move, he, if_neg (by simp), if_pos hout]
        rfl
      · exact absurd hlate (hintime s' hs')
    · refine ⟨n.sender, t, h.sender.rest hidle hout, ?_, h⟩
      rw [Event.move, he, if_neg (by simp), if_neg hout]
      rfl
  | some result =>
    obtain ⟨hout, a, ha, rfl⟩ := hreads result he
    have hlt : t.acked < t.delivered :=
      (List.getElem?_eq_some_iff.mp ha).1.trans_le h.acks_le
    have hsent := hv.delivered_le
    obtain ⟨s', hs', hup | hlate⟩ := h.sender.read (by omega) (h.ack t.acked a ha)
      (Readable.result_eq_some_iff.mp he) hout
    · refine ⟨s', { t with acked := t.acked + 1, sent := reach (t.acked + 1) }, hs', ?_, hup,
        h.receiver, h.ack, h.acks_le, h.ignored⟩
      rw [Event.move, he, if_pos Option.isSome_some, Transfer.step, if_pos hlt]
    · exact absurd hlate (hintime s' hs')

/-- What the sender reads acknowledges the packet at the front of its table. -/
theorem InStep.findsAcked (h : InStep crc32 file n t) {e : SenderPoll}
    (hreads : ∀ result ∈ e.readable.result, e.writable = .pollout ∧
      ∃ a ∈ n.receiver.written[t.acked]?, result = .bytes a.2) :
    FindsAcked crc32 n (.sender e) := by
  intro ack hack
  have hread : ∃ datagram, e.readable = .pollin (.bytes datagram) := by
    unfold ackRead at hack
    split at hack
    · exact ⟨_, by assumption⟩
    · cases hack
  obtain ⟨datagram, he⟩ := hread
  obtain ⟨-, a, ha, hdatagram⟩ := hreads _ (Readable.result_eq_some_iff.mpr he)
  rw [hdatagram] at he
  obtain ⟨ack', hack', hnum, -⟩ := ackRead_of_isAck (h.ack t.acked a ha) he n.sender
  obtain rfl := Option.some.inj (hack.symm.trans hack')
  have hwindow : 0 < n.sender.window ∧ n.sender.window ≤ tableSize := by
    rw [h.sender.window]
    split <;> decide
  have hplace : ackedSeqnum ack.seqnum.toNat = (t.acked + 0) % 256 := by
    rw [hnum]
    unfold ackedSeqnum
    split <;> omega
  exact ⟨0, h.sender.findBuffer_eq hwindow.1 hwindow.2 hplace⟩

/-- The transfer is complete when the chunks written reach the end of the file. -/
theorem flatten_eq_file {stdout : List (List UInt8)}
    (h : stdout = (List.range stdout.length).map (chunk file))
    (hend : chunk file stdout.length = []) :
    stdout.flatten = file ∧ ∀ i, chunk file i ≠ [] → i < stdout.length := by
  have hlen := chunk_eq_nil_iff.mp hend
  constructor
  · rw [h, flatten_chunks, List.take_of_length_le hlen]
  · intro i hi
    rw [ne_eq, chunk_eq_nil_iff] at hi
    unfold chunkSize at *
    omega

/-- An iteration of the receiver before the end of the transfer. -/
theorem receivedInStep_step {r : Receiver} {ds : List Delivery} {d : Delivery}
    (h : InOrder crc32 (chunk file) ds r) (hidle : r.partialAck = -1)
    (hrunning : r.status = .running) (hread : ReadsPacket crc32 (chunk file) r d)
    (hnext : d.1.Reads → d.2 = (arrivals ds).length) (hout : d.1.Reads → d.1.writable = .pollout) :
    ∃ r', deliver crc32 r d = some r' ∧
      ReceivedInStep crc32 file (arrivals (ds ++ [d])).length r' ∧
      (∀ i a, r'.written[i]? = some a → IsAck crc32 i a) ∧
      r'.written.length ≤ (arrivals (ds ++ [d])).length ∧ r'.packetIgnored = 0 := by
  have hcount := h.count
  rw [if_pos hidle, Nat.add_zero] at hcount
  by_cases hempty : d.1.Reads ∧ chunk file d.2 = []
  · obtain ⟨hyes, hnil⟩ := hempty
    obtain ⟨r', -, hr', hend, hkeeps⟩ := h.closes hidle hrunning hyes hread hnil
    rw [hnext hyes, hcount] at hnil
    obtain ⟨hfile, hbefore⟩ := flatten_eq_file h.stdout hnil
    have hlen : (arrivals (ds ++ [d])).length = r.stdout.length + 1 := by
      rw [arrivals_snoc, if_pos hyes, List.length_append, hcount]
      rfl
    refine ⟨r', hr', Or.inr ⟨hend, by rw [hkeeps.stdout, hfile], fun i hi => ?_⟩, ?_, ?_, ?_⟩
    · have := hbefore i hi
      omega
    · rw [hkeeps.written]
      exact h.ack
    · rw [hkeeps.written, h.acks, hlen]
      exact Nat.le_succ _
    · rw [hkeeps.packetIgnored, h.ignored]
  · obtain ⟨m, r', hr', hgoes, -, -, hord, hrcv, hrep⟩ := h.step ⟨hrunning, hread, hnext⟩
      (fun hyes hnil => hempty ⟨hyes, hnil⟩) fun _ => hidle
    have hidle' := InOrder.flushed hidle hout hrcv hrep
    refine ⟨r', hr', Or.inl ⟨hgoes, ds ++ [d], hord, rfl, hidle'⟩, hord.ack, ?_, hord.ignored⟩
    rw [hord.acks, hord.count]
    exact Nat.le_add_right ..

/-- **An iteration of the receiver.** -/
theorem InStep.receiver_step (h : InStep crc32 file n t) {e : ReceiverPoll}
    (hrunning : n.receiver.status = .running)
    (hreads : ∀ result ∈ e.readable.result, e.writable = .pollout ∧
      ∃ w ∈ n.sender.written[t.delivered]?, result = .bytes w.datagram) :
    ∃ r' t', readWriteLoop crc32 n.receiver e = some r' ∧
      t.step reach (Event.receiver e).move = some t' ∧
      InStep crc32 file { n with receiver := r' } t' := by
  obtain ⟨ds, hord, hcount, hidle⟩ : ∃ ds, InOrder crc32 (chunk file) ds n.receiver ∧
      (arrivals ds).length = t.delivered ∧ n.receiver.partialAck = -1 := by
    rcases h.receiver with ⟨-, hds⟩ | ⟨hend, -⟩
    · exact hds
    · rw [hrunning] at hend
      cases hend
  have hread : ReadsPacket crc32 (chunk file) n.receiver (e, t.delivered) := by
    intro result he
    obtain ⟨-, w, hw, hresult⟩ := hreads result (Readable.result_eq_some_iff.mpr he)
    have hsent := readsPacket_of_sent h.sender.toGenuine he
      ⟨List.mem_of_getElem? hw, hresult⟩ n.receiver
    rw [h.sender.toLockstep.position_of_getElem? hw] at hsent
    exact hsent result he
  have hyes : e.Reads → e.writable = .pollout ∧ t.delivered < t.sent := by
    rintro ⟨result, he⟩
    obtain ⟨hout, w, hw, -⟩ := hreads result (Readable.result_eq_some_iff.mpr he)
    have hlt := (List.getElem?_eq_some_iff.mp hw).1
    rw [h.sender.toLockstep.length_written] at hlt
    exact ⟨hout, hlt⟩
  obtain ⟨r', hr', hrcv, hack, hacks, hignored⟩ := receivedInStep_step (d := (e, t.delivered)) hord
    hidle hrunning hread (fun _ => hcount.symm) fun hyes' => (hyes hyes').1
  rw [arrivals_snoc, List.length_append, hcount] at hrcv hacks
  by_cases hr : e.Reads
  · refine ⟨r', { t with delivered := t.delivered + 1 }, hr', ?_, h.sender, ?_, hack, ?_, hignored⟩
    · obtain ⟨result, he⟩ := hr
      rw [Event.move, Readable.result_eq_some_iff.mpr he, if_pos Option.isSome_some, Transfer.step,
        if_pos (hyes ⟨result, he⟩).2]
    · rwa [if_pos hr] at hrcv
    · rwa [if_pos hr] at hacks
  · refine ⟨r', t, hr', ?_, h.sender, ?_, hack, ?_, hignored⟩
    · have hnone : ¬ e.readable.result.isSome = true := by
        rw [Option.isSome_iff_exists]
        rintro ⟨result, he⟩
        exact hr ⟨result, Readable.result_eq_some_iff.mp he⟩
      rw [Event.move, if_neg hnone]
      rfl
    · rwa [if_neg hr] at hrcv
    · rwa [if_neg hr] at hacks

/-! ## Runs -/

theorem acksRead_eq (es : List Event) : acksRead es = (es.map Event.move).count .ack := by
  rw [acksRead, List.count, List.countP_map]
  refine List.countP_congr fun e _ => ?_
  rcases e with e | e <;> simp only [Event.senderReads, Event.move, Function.comp]
  · by_cases he : e.readable.result.isSome = true <;> by_cases hout : e.writable = .pollout <;>
      simp [he, hout]
  · by_cases he : e.readable.result.isSome = true <;> simp [he]

theorem packetsRead_eq (es : List Event) : packetsRead es = (es.map Event.move).count .deliver := by
  rw [packetsRead, List.count, List.countP_map]
  refine List.countP_congr fun e _ => ?_
  rcases e with e | e <;> simp only [Event.receiverReads, Event.move, Function.comp]
  · by_cases he : e.readable.result.isSome = true <;> by_cases hout : e.writable = .pollout <;>
      simp [he, hout]
  · by_cases he : e.readable.result.isSome = true <;> simp [he]

/-- **An iteration of either side** has an outcome and is a move of the transfer. -/
theorem InStep.step (h : InStep crc32 file n t) (hruns : Transfer.Runs reach (es.map Event.move) t)
    {e : Event} (hlink : PerfectLink crc32 es n e) :
    ∃ n' t', networkStep crc32 n e = some n' ∧ t.step reach e.move = some t' ∧
      InStep crc32 file n' t' := by
  have hv := Transfer.valid_of_run reach_mono hruns
  obtain ⟨hacked, hdelivered⟩ := Transfer.counts_of_run hruns
  rcases e with e | e
  · obtain ⟨-, hother, hreads, htime⟩ := hlink
    rw [acksRead_eq, ← hacked] at hreads
    obtain ⟨s', t', hs', ht', hin⟩ := h.sender_step hv hother hreads htime
    exact ⟨{ n with sender := s' }, t', by rw [networkStep, hs']; rfl, ht', hin⟩
  · obtain ⟨hrunning, -, hreads⟩ := hlink
    rw [packetsRead_eq, ← hdelivered] at hreads
    obtain ⟨r', t', hr', ht', hin⟩ := h.receiver_step hrunning hreads
    exact ⟨{ n with receiver := r' }, t', by rw [networkStep, hr']; rfl, ht', hin⟩

/-- **The two loops refine a sliding window** of limit `reach`: every run over a perfect link is a
run of the transfer, move by move. -/
theorem transfer_of_run {s₀ : Sender} (hgen : Genuine crc32 file s₀) (hstart : Starts s₀)
    {bufferR : Memory} (hrun : Run (networkStep crc32) (PerfectLink crc32)
      ⟨s₀, Receiver.init bufferR⟩ es n) :
    ∃ t, Transfer.Runs reach (es.map Event.move) t ∧ InStep crc32 file n t := by
  have hinit := inStep_of_starts hgen hstart bufferR
  refine hrun.simulates (R := InStep crc32 file) Event.move hinit ?_
  intro es n e n' t hruns hin hlink hstep
  obtain ⟨q, t', hq, ht', hin'⟩ := hin.step hruns hlink
  obtain rfl := Option.some.inj (hstep.symm.trans hq)
  exact ⟨trivial, t', ht', hin'⟩

/-- What the joint invariant is for. -/
theorem InStep.exactTransfer (h : InStep crc32 file n t) (hv : t.Valid reach) :
    ExactTransfer file n where
  noAbsentLookup := by
    rw [h.sender.running]
    simp
  sentOnce := by
    rw [h.sender.toLockstep.length_written]
    exact h.sender.position
  bySendLoop := h.sender.cause
  noDrop := h.ignored
  output := by
    intro hend
    have hle := hv.delivered_le
    rcases h.receiver with ⟨hgoes, -⟩ | ⟨-, hfile, hbefore⟩
    · exact absurd hend hgoes
    · rw [h.sender.toLockstep.length_written]
      exact ⟨hfile, fun i hi => (hbefore i hi).trans_le hle⟩

/-- **Exact transfer over a perfect link**, for files of every size and every interleaving of the
two loops: no lookup of the sender fails, the loop over `nextseqnum` sends each packet once and
nothing else is sent, the receiver drops no packet, and when an empty packet ends the transfer the
output is the file.  No iteration the link allows is without outcome. -/
theorem exactTransfer_of_run (crc32 : List UInt8 → UInt32) (file : List UInt8) (buffer : Memory)
    (freshAck : Pkt) (clockAck : UInt32) (fill : FillInputs) (s₀ : Sender)
    (hinit : Sender.init crc32 file buffer freshAck clockAck fill = some s₀) (bufferR : Memory)
    (es : List Event) (n : Network)
    (hrun : Run (networkStep crc32) (PerfectLink crc32) ⟨s₀, Receiver.init bufferR⟩ es n) :
    ExactTransfer file n ∧ ∀ e, PerfectLink crc32 es n e →
      (∃ n', networkStep crc32 n e = some n') ∧ FindsAcked crc32 n e := by
  obtain ⟨hgen, hstart⟩ := starts_of_init hinit
  obtain ⟨t, hruns, hin⟩ := transfer_of_run hgen hstart hrun
  have hv := Transfer.valid_of_run reach_mono hruns
  refine ⟨hin.exactTransfer hv, fun e hlink => ⟨?_, ?_⟩⟩
  · obtain ⟨n', -, hn', -⟩ := hin.step hruns hlink
    exact ⟨n', hn'⟩
  · rcases e with e | e
    · have hreads := hlink.2.2.1
      rw [acksRead_eq, ← (Transfer.counts_of_run hruns).1] at hreads
      exact hin.findsAcked hreads
    · trivial

instance (es : List Event) (n : Network) (e : Event) : Decidable (PerfectLink crc32 es n e) :=
  match e with
  | .sender e => inferInstanceAs (Decidable (n.sender.status = .running ∧ e.readable ≠ .other ∧
      (∀ result ∈ e.readable.result, e.writable = .pollout ∧
        ∃ a ∈ n.receiver.written[acksRead es]?, result = .bytes a.2) ∧
      ∀ s' ∈ readWriteLoopSender crc32 n.sender e, ∀ w ∈ s'.written, w.cause ≠ .timeout))
  | .receiver e => inferInstanceAs (Decidable (n.receiver.status = .running ∧
      e.readable ≠ .other ∧
      ∀ result ∈ e.readable.result, e.writable = .pollout ∧
        ∃ w ∈ n.sender.written[packetsRead es]?, result = .bytes w.datagram))

/-- A file of one byte: packet 0, its ACK, four packets more, and the first of them ends the
transfer. -/
theorem exactTransfer_oneByte : ∃ n : Network,
    n.receiver.status = .endOfData ∧ n.sender.written.length = 5 ∧ ExactTransfer [65] n := by
  obtain ⟨n, hrun, hview⟩ := exists_run_of_follow (networkStep zlibCrc32) (PerfectLink zlibCrc32)
    (startNetwork [65])
    [.sender writePoll, .receiver (dataPoll [65] 0 .pollout), .sender (ackPoll 1 .pollout),
      .receiver (dataPoll [65] 1 .pollout)]
    (fun n => (n.receiver.status, n.sender.written.length))
    (show _ = some (.endOfData, 5) by decide +kernel)
  obtain ⟨hend, hsent⟩ := Prod.mk.inj hview
  exact ⟨n, hend, hsent, (exactTransfer_of_run zlibCrc32 [65] (fun _ => 0) blankPkt 0 blankFill _
    (init_startSender [65]) (fun _ => 0) _ n hrun).1⟩

end TrtpNetwork
