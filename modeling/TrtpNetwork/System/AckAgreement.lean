import TrtpNetwork.Sender.Lockstep
import TrtpNetwork.System.LossyLink

/-!
# What the ACKs tell the sender

The receiver keeps one pending ACK, which the next accepted packet overwrites; the sender takes an
ACK for the one packet before its number.  The two agree only as long as every packet is
acknowledged on its own.  `AcksFreeAccepted` is the agreement: feeding the ACKs sent so far to the
input half of a sender frees the slot of every packet the receiver accepted.

`acksFreeAccepted_of_run` is the result for the runs in which nothing is read while an ACK is
pending, and `pairDelivered` the shortest other case: two packets are read before the flush, one ACK
is sent, and the first packet stays in the table of the sender.
-/

namespace TrtpNetwork

variable (crc32 : List UInt8 → UInt32)

/-- The position of the packet an iteration accepts into the table, which takes a free place. -/
def acceptedBy (r : Receiver) (d : Delivery) : List ℕ :=
  if r.status = .running ∧ ∃ m ∈ receive crc32 r d.1, m.freePlace < r.freePlace then [d.2] else []

/-- One iteration of the receiver, with a record of the packets accepted. -/
def deliverAccepting (t : Receiver × List ℕ) (d : Delivery) : Option (Receiver × List ℕ) :=
  (deliver crc32 t.1 d).map fun r => (r, t.2 ++ acceptedBy crc32 t.1 d)

/-- Each ACK sent so far is read in an iteration of its own, in order. -/
def Feeds (r : Receiver) (es : List SenderPoll) : Prop :=
  es.map SenderPoll.readable = r.written.map fun w => .pollin (.bytes w.2)

/-- Feeding the ACKs to the sender removes every accepted packet from its table. -/
def AcksFreeAccepted (s₀ : Sender) (t : Receiver × List ℕ) : Prop :=
  ∀ es, Feeds t.1 es → ∃ s, es.foldlM (senderReceive crc32) s₀ = some s ∧
    ∀ i < tableSize, ∀ p ∈ s.listPkt i, p ∉ t.2

variable {crc32} {file : List UInt8} {k n : ℕ}

/-- **ACKs in order, read one after the other.** -/
theorem Lockstep.receiveAll {s : Sender} (h : Lockstep crc32 file k n s)
    {ws : List (Pkt × List UInt8)} (hack : ∀ i w, ws[i]? = some w → IsAck crc32 (k + i) w)
    {es : List SenderPoll}
    (hes : es.map SenderPoll.readable = ws.map fun w => .pollin (.bytes w.2)) :
    ∃ s', es.foldlM (senderReceive crc32) s = some s' ∧
      Lockstep crc32 file (k + ws.length) n s' := by
  induction ws generalizing k s es with
  | nil =>
    obtain rfl : es = [] := List.map_eq_nil_iff.mp hes
    exact ⟨s, rfl, h⟩
  | cons w ws ih =>
    cases es with
    | nil => cases hes
    | cons e es =>
      obtain ⟨he, hrest⟩ := List.cons_eq_cons.mp hes
      obtain ⟨m, hm, hlock, -, -⟩ := h.receive (hack 0 w rfl) he
      have hack' : ∀ i v, ws[i]? = some v → IsAck crc32 (k + 1 + i) v := by
        intro i v hv
        rw [Nat.add_assoc, Nat.add_comm 1 i]
        exact hack (i + 1) v hv
      obtain ⟨s', hs', hlock'⟩ := ih hlock hack' hrest
      refine ⟨s', ?_, ?_⟩
      · rw [List.foldlM_cons, hm]
        exact hs'
      · rw [List.length_cons, Nat.add_comm ws.length 1, ← Nat.add_assoc]
        exact hlock'

/-! ## One ACK for each packet -/

variable (crc32) in
/-- The packets accepted are the ones acknowledged, and the one that is pending. -/
structure Accepted (stream : ℕ → List UInt8) (ds : List Delivery) (t : Receiver × List ℕ) :
    Prop where
  ack : ∀ i w, t.1.written[i]? = some w → IsAck crc32 i w
  accepted : t.2 = List.range (t.1.written.length + if t.1.partialAck = -1 then 0 else 1)
  inOrder : t.1.status = .running → InOrder crc32 stream ds t.1

variable {stream : ℕ → List UInt8} {ds : List Delivery} {r : Receiver} {d : Delivery}

theorem acceptedBy_of_not_lt {m : Receiver} (hm : receive crc32 r d.1 = some m)
    (hle : r.freePlace ≤ m.freePlace) : acceptedBy crc32 r d = [] := by
  rw [acceptedBy, if_neg]
  rintro ⟨-, m', hm', hlt⟩
  obtain rfl := Option.some.inj (hm.symm.trans hm')
  omega

theorem acceptedBy_of_stores {m : Receiver} {i slot : ℕ} {pkt : Pkt}
    (hrunning : r.status = .running) (hm : receive crc32 r d.1 = some m)
    (hst : Stores r m i slot pkt) : acceptedBy crc32 r d = [d.2] := by
  rw [acceptedBy, if_pos ⟨hrunning, m, hm, by rw [hst.freePlace]; omega⟩]

/-- In order and with nothing pending, every packet that is read is accepted, unless it is empty. -/
theorem acceptedBy_of_inOrder (h : InOrder crc32 stream ds r) (hrunning : r.status = .running)
    (hidle : NoAckPending r d) {m : Receiver} (hm : receive crc32 r d.1 = some m)
    (heff : ReceiveEffect stream r m d) :
    acceptedBy crc32 r d = if d.1.Reads then [d.2] else [] := by
  rcases heff with ⟨hno, hk⟩ | ⟨hyes, -, pkt, -, hst⟩ | ⟨hyes, htaken, -⟩
  · rw [if_neg hno, acceptedBy_of_not_lt hm hk.freePlace.ge]
  · rw [if_pos hyes, acceptedBy_of_stores hrunning hm hst]
  · exact absurd (hidle hyes) ((h.table _).mp htaken).2

theorem InOrder.arrived (h : InOrder crc32 stream ds r) :
    (arrivals ds).length = r.written.length + if r.partialAck = -1 then 0 else 1 := by
  rw [h.acks, h.count]

/-- **One iteration.** -/
theorem Accepted.step {t t' : Receiver × List ℕ} (h : Accepted crc32 stream ds t)
    (hok : ReadsNext crc32 stream ds t.1 d) (hidle : NoAckPending t.1 d)
    (hstep : deliverAccepting crc32 t d = some t') :
    Accepted crc32 stream (ds ++ [d]) t' := by
  obtain ⟨r', hr', rfl⟩ := Option.map_eq_some_iff.mp hstep
  obtain ⟨hrunning, hread, hnext⟩ := hok
  have hord := h.inOrder hrunning
  by_cases hempty : d.1.Reads ∧ stream d.2 = []
  · -- the end of the transfer accepts nothing and sends nothing
    obtain ⟨hyes, hnil⟩ := hempty
    obtain ⟨q, hq, hq', hend, hk⟩ := hord.closes (hidle hyes) hrunning hyes hread hnil
    obtain rfl := Option.some.inj (hr'.symm.trans hq')
    refine ⟨?_, ?_, fun hrunning' => ?_⟩
    · simp only [hk.written]
      exact h.ack
    · simp only [hk.written, hk.partialAck, acceptedBy_of_not_lt hq hk.freePlace.ge,
        List.append_nil]
      exact h.accepted
    · rw [hend] at hrunning'
      cases hrunning'
  · obtain ⟨m, q, hq, -, hm, -, hord', hrcv, -⟩ := hord.step ⟨hrunning, hread, hnext⟩
      (fun hyes hnil => hempty ⟨hyes, hnil⟩) hidle
    obtain rfl := Option.some.inj (hr'.symm.trans hq)
    refine ⟨hord'.ack, ?_, fun _ => hord'⟩
    show t.2 ++ acceptedBy crc32 t.1 d = _
    rw [← hord'.arrived, acceptedBy_of_inOrder hord hrunning hidle hm hrcv, h.accepted,
      ← hord.arrived, arrivals_snoc, List.length_append]
    split
    · rw [hnext (by assumption), List.length_singleton, List.range_succ]
    · rw [List.append_nil, List.length_nil, Nat.add_zero]

/-- **The ACKs free what was accepted** in the runs in which nothing is read while an ACK is
pending: for every file whose packets arrive in order, in every state without a pending ACK. -/
theorem acksFreeAccepted_of_run (crc32 : List UInt8 → UInt32) (file : List UInt8) (buffer : Memory)
    (freshAck : Pkt) (clockAck : UInt32) (fill : FillInputs) (s₀ : Sender)
    (hinit : Sender.init crc32 file buffer freshAck clockAck fill = some s₀)
    (bufferR : Memory) (ds : List Delivery) (t : Receiver × List ℕ)
    (hrun : Run (deliverAccepting crc32)
      (fun ds t d => ReadsNext crc32 (chunk file) ds t.1 d ∧ NoAckPending t.1 d)
      (Receiver.init bufferR, []) ds t)
    (hflushed : t.1.partialAck = -1) : AcksFreeAccepted crc32 s₀ t := by
  obtain ⟨hgen, hstart⟩ := starts_of_init hinit
  have hinv : Accepted crc32 (chunk file) ds t := by
    refine hrun.invariant (I := Accepted crc32 (chunk file)) ⟨by simp [Receiver.init], rfl,
      fun _ => inOrder_init crc32 (chunk file) bufferR⟩ ?_
    rintro ds t d t' h ⟨hok, hidle⟩ hstep
    exact h.step hok hidle hstep
  intro es hes
  obtain ⟨s', hs', hlock⟩ := (Lockstep.of_starts hgen hstart).receiveAll
    (fun i w hw => by rw [Nat.zero_add]; exact hinv.ack i w hw) hes
  refine ⟨s', hs', fun i hi p hp => ?_⟩
  rw [hlock.table i hi] at hp
  obtain rfl := Option.some.inj hp
  rw [hinv.accepted, if_pos hflushed, List.mem_range]
  omega

/-- One packet, read and flushed. -/
theorem acksFreeAccepted_first : ∃ t : Receiver × List ℕ, t.2 = [0] ∧
    AcksFreeAccepted zlibCrc32 (startSender [65]) t := by
  obtain ⟨t, hrun, hview⟩ := exists_run_of_follow (deliverAccepting zlibCrc32)
    (fun ds t d => ReadsNext zlibCrc32 (chunk [65]) ds t.1 d ∧ NoAckPending t.1 d)
    (Receiver.init fun _ => 0, []) [streamDelivery zlibCrc32 (chunk [65]) blankPkt 0 .pollout]
    (fun t => (t.1.partialAck, t.2)) (show _ = some (-1, [0]) by decide +kernel)
  obtain ⟨hflushed, haccepted⟩ := Prod.mk.inj hview
  exact ⟨t, haccepted, acksFreeAccepted_of_run zlibCrc32 [65] (fun _ => 0) blankPkt 0 blankFill _
    (init_startSender [65]) (fun _ => 0) _ t hrun hflushed⟩

/-! ## One ACK for two packets -/

variable (crc32) in
/-- A packet of the first block that is read into a free slot of the window. -/
theorem Aligned.readsInto (h : Aligned stream r) (hrunning : r.status = .running) {i : ℕ}
    (hne : stream i ≠ []) (hlen : (stream i).length ≤ 496) (hlo : r.stdout.length ≤ i)
    (hhi : i < r.stdout.length + realWindow) (hblock : i < 256)
    (hfree : r.listPkt (i - r.stdout.length) = none) (fresh : Pkt) (writable : Writable) :
    ∃ m pkt, TrtpNetwork.receive crc32 r (streamDelivery crc32 stream fresh i writable).1 = some m ∧
      Aligned stream m ∧ m.status = .running ∧ Stores r m i (i - r.stdout.length) pkt := by
  have hread : ReadsPacket crc32 stream r (streamDelivery crc32 stream fresh i writable) :=
    readsPacket_streamDelivery crc32 stream hlen writable r
  obtain ⟨m, hm, hal, -, hrcv⟩ := h.receive crc32 hrunning (fun _ => hne) hread
    (fun _ => ⟨hlo, hhi⟩) fun _ => by
      show i / 256 = r.stdout.length / 256
      omega
  rcases hrcv with ⟨hno, -⟩ | ⟨-, -, pkt, -, hst⟩ | ⟨-, htaken, -⟩
  · exact absurd ⟨_, rfl⟩ hno
  · exact ⟨m, pkt, hm, hal, hst.status.trans hrunning, hst⟩
  · exact absurd hfree htaken

/-- Packets 0 and 1 in the table, and the ACK of packet 1 pending: the flush sends that ACK. -/
theorem Aligned.flushPair (crc32 : List UInt8 → UInt32) {m : Receiver} (h : Aligned stream m)
    {pkt0 pkt1 : Pkt} (htable : m.listPkt =
      Function.update (Function.update (fun _ => none) 0 (some pkt0)) 1 (some pkt1))
    (hpending : m.partialAck = 2) {e : ReceiverPoll} (hout : e.writable = .pollout) :
    ∃ r', TrtpNetwork.reply crc32 m e = some r' ∧ Flushes crc32 m r' e.freshAck 2 := by
  have hfirst : firstEmptyPlace m.listPkt = some 2 := by
    refine firstEmptyPlace_eq_some_iff.mpr ⟨by decide, by rw [htable]; rfl, fun j hj => ?_⟩
    rcases (show j = 0 ∨ j = 1 by omega) with rfl | rfl <;> simp [htable]
  have hsafe : FlushSafe m := by
    intro _ s _
    refine ⟨Or.inr (Or.inr (by rw [htable]; rfl)), fun hzero => ?_⟩
    rw [hpending] at hzero
    cases hzero
  obtain ⟨r', hr', -, -, hrep⟩ := h.reply crc32 e fun _ => hsafe
  obtain ⟨s, hf⟩ : ∃ s, Flushes crc32 m r' e.freshAck s := by
    rcases hrep with ⟨-, hidle⟩ | ⟨-, hf⟩
    · have := hidle hout
      omega
    · exact hf
  obtain rfl := Option.some.inj (hfirst.symm.trans hf.first)
  exact ⟨r', hr', hf⟩

/-- **Two packets before one flush** are accepted, and acknowledged by the ACK of the second. -/
theorem pairDelivered (crc32 : List UInt8 → UInt32) {file : List UInt8} (h0 : chunk file 0 ≠ [])
    (h1 : chunk file 1 ≠ []) (buffer : Memory) :
    ∃ ds t w, Run (deliverAccepting crc32)
        (fun ds t d => ReadsNext crc32 (chunk file) ds t.1 d) (Receiver.init buffer, []) ds t ∧
      t.1.partialAck = -1 ∧ t.2 = [0, 1] ∧ t.1.written = [w] ∧ IsAck crc32 1 w := by
  have hlen : ∀ i, (chunk file i).length ≤ 496 :=
    fun i => (length_chunk_le file i).trans (by decide)
  -- packet 0, without a flush
  obtain ⟨r, pkt0, hr, hral, hrunning, hst0⟩ := (aligned_init (chunk file) buffer).readsInto
    crc32 rfl h0 (hlen 0) (Nat.zero_le _) (Nat.zero_lt_succ _) (by omega) rfl blankPkt .idle
  have hstep0 : deliver crc32 (Receiver.init buffer)
      (streamDelivery crc32 (chunk file) blankPkt 0 .idle) = some r :=
    readWriteLoop_of_receive crc32 rfl hr (by rw [hrunning]; decide)
  have hstdout : r.stdout.length = 0 := by
    rw [hst0.stdout]
    rfl
  have htable : r.listPkt = Function.update (fun _ => none) 0 (some pkt0) := hst0.table
  -- packet 1, with the flush
  obtain ⟨m, pkt1, hm, hmal, hrunning1, hst1⟩ := hral.readsInto crc32 hrunning h1 (hlen 1)
    (by rw [hstdout]; exact Nat.zero_le _) (by rw [hstdout]; decide) (by omega)
    (by rw [hstdout, htable]; rfl) blankPkt .pollout
  have htable1 : m.listPkt =
      Function.update (Function.update (fun _ => none) 0 (some pkt0)) 1 (some pkt1) := by
    rw [hst1.table, htable, hstdout]
  have hpending : m.partialAck = ((1 + 1) % 256 : ℕ) := hst1.partialAck
  obtain ⟨q, hq, hf⟩ := hmal.flushPair crc32 htable1 hpending
    (e := (streamDelivery crc32 (chunk file) blankPkt 1 .pollout).1) rfl
  have hstep1 : deliver crc32 r (streamDelivery crc32 (chunk file) blankPkt 1 .pollout) =
      some q :=
    (readWriteLoop_of_receive crc32 hrunning hm (by rw [hrunning1]; decide)).trans hq
  have hack : IsAck crc32 1 (ackPkt m blankPkt 2, encoding crc32 (ackPkt m blankPkt 2) []) := by
    refine isAck_ackPkt hpending ?_ blankPkt
    rw [hst1.freePlace, hst0.freePlace]
    rfl
  have hread1 : ReadsPacket crc32 (chunk file) r
      (streamDelivery crc32 (chunk file) blankPkt 1 .pollout) :=
    readsPacket_streamDelivery crc32 (chunk file) (hlen 1) .pollout r
  have haccepted0 := acceptedBy_of_stores
    (d := streamDelivery crc32 (chunk file) blankPkt 0 .idle) rfl hr hst0
  have haccepted1 := acceptedBy_of_stores
    (d := streamDelivery crc32 (chunk file) blankPkt 1 .pollout) hrunning hm hst1
  have hrun0 : Run (deliverAccepting crc32) (fun ds t d => ReadsNext crc32 (chunk file) ds t.1 d)
      (Receiver.init buffer, []) [streamDelivery crc32 (chunk file) blankPkt 0 .idle] (r, [0]) := by
    refine Run.nil.snoc ⟨rfl, readsPacket_streamDelivery crc32 (chunk file) (hlen 0) .idle _,
      fun _ => rfl⟩ ?_
    rw [deliverAccepting, hstep0, haccepted0]
    rfl
  refine ⟨_, (q, [0, 1]), _, hrun0.snoc ⟨hrunning, hread1, fun _ => rfl⟩ ?_, hf.partialAck, rfl,
    ?_, hack⟩
  · rw [deliverAccepting, hstep1, haccepted1]
    rfl
  · rw [hf.written, hst1.written, hst0.written]
    rfl

/-- **An ACK for another packet leaves the front of the table as it is.** -/
theorem AckedInOrder.front_stays {s s' : Sender} (h : AckedInOrder crc32 file k s)
    {fill : FillInputs} {ack : Pkt} (hne : ackedSeqnum ack.seqnum.toNat ≠ k % 256)
    (hack : TrtpNetwork.handleAck crc32 fill s ack = some s') : s'.listPkt 0 = some k := by
  obtain ⟨b, m, hb, hm, rfl⟩ := handleAck_cases crc32 hack
  have hslot : b.listPkt 0 = some k := by
    rcases deleteAcked_cases hb with rfl | ⟨i, p, -, hi, -, ⟨q, pkt, hq, hpkt, hseq⟩, rfl⟩
    · exact h.table 0 (by decide)
    · -- the freed slot holds a packet with another number than the front
      have hi0 : 0 ≠ i := by
        rintro rfl
        obtain rfl := Option.some.inj ((h.table 0 (by decide)).symm.trans hq)
        rw [h.toGenuine.seqnum_eq hpkt] at hseq
        exact hne hseq.symm
      show Function.update s.listPkt i none 0 = some k
      rw [Function.update_of_ne hi0]
      exact h.table 0 (by decide)
  obtain ⟨n, hn, rfl⟩ := clearAndFillBuffer_cases crc32 hm
  obtain ⟨-, -, hrun⟩ := scanWhile_zero_eq_some_iff.mp hn
  have hn0 : n = 0 := by
    by_contra hpos
    have := hrun 0 (by omega)
    rw [hslot] at this
    cases this
  subst hn0
  show refilled b.listPkt b.seqnum 0 0 = some k
  rw [refilled_of_le_one (Nat.zero_le 1) (by decide), if_pos (by decide)]
  exact hslot

/-- A file of two packets. -/
def twoPackets : List UInt8 := List.replicate 489 65

/-- **The ACK of the second packet does not free the first.**  Packets 0 and 1 of a file are read
before one flush; the ACK with number 2 that is sent leaves packet 0 in the table of the sender. -/
theorem not_acksFreeAccepted :
    ¬ ∀ (file : List UInt8) (buffer : Memory) (freshAck : Pkt) (clockAck : UInt32)
      (fill : FillInputs) (s₀ : Sender),
      Sender.init zlibCrc32 file buffer freshAck clockAck fill = some s₀ →
      ∀ (bufferR : Memory) (ds : List Delivery) (t : Receiver × List ℕ),
        Run (deliverAccepting zlibCrc32) (fun ds t d => ReadsNext zlibCrc32 (chunk file) ds t.1 d)
          (Receiver.init bufferR, []) ds t →
        t.1.partialAck = -1 → AcksFreeAccepted zlibCrc32 s₀ t := by
  intro h
  have hchunk : ∀ i < 2, chunk twoPackets i ≠ [] := by
    intro i hi
    rw [ne_eq, chunk_eq_nil_iff, twoPackets, List.length_replicate]
    unfold chunkSize
    omega
  obtain ⟨ds, t, w, hrun, hflushed, haccepted, hwritten, hack⟩ := pairDelivered zlibCrc32
    (hchunk 0 (by decide)) (hchunk 1 (by decide)) fun _ => 0
  obtain ⟨s₀, hs₀, hgen, hstart⟩ := sender_init_eq zlibCrc32 twoPackets (fun _ => 0) blankPkt 0
    blankFill
  let e : SenderPoll := { writePoll with readable := .pollin (.bytes w.2) }
  obtain ⟨s, hs, hfree⟩ := h twoPackets _ _ _ _ s₀ hs₀ _ ds t hrun hflushed [e]
    (by rw [Feeds, hwritten]; rfl)
  obtain ⟨ack, hread, hnum, -, -⟩ := ackRead_of_isAck hack (e := e) rfl s₀
  have hlock := (Lockstep.of_starts hgen hstart).withBuffer (readBuffer s₀ e)
  have hrcv : senderReceive zlibCrc32 s₀ e = some s := by
    simpa using hs
  rw [senderReceive_of_ackRead zlibCrc32 hread] at hrcv
  have hfront := hlock.toAckedInOrder.front_stays (by rw [hnum]; decide) hrcv
  refine hfree 0 (by decide) 0 hfront ?_
  rw [haccepted]
  decide

end TrtpNetwork
