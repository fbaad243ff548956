import TrtpNetwork.Receiver.Deliveries

/-!
# Packets in order, each acknowledged before the next

The undisturbed use of the receiver: the packets of the stream arrive in order, and none is read
while the ACK of the one before is pending.  Then the table never holds more than one packet, in
slot 0, every condition of `Receiver.Deliveries` is met, and the ACKs sent are number 1, 2, 3, …
modulo 256, each with the full window.  `InOrder` is this invariant and `InOrder.step` the
iteration that keeps it.

The runs in question are the ones in which the rest of the development asks what a single
irregularity does: a duplicate, an ACK that is overwritten, a sender at the other end.
-/

namespace TrtpNetwork

variable (crc32 : List UInt8 → UInt32) (stream : ℕ → List UInt8)

/-- The next packet of the stream is read, or none. -/
def ReadsNext (ds : List Delivery) (r : Receiver) (d : Delivery) : Prop :=
  r.status = .running ∧ ReadsPacket crc32 stream r d ∧
    (d.1.Reads → d.2 = (arrivals ds).length)

/-- Nothing is read while an ACK is pending. -/
def NoAckPending (r : Receiver) (d : Delivery) : Prop :=
  d.1.Reads → r.partialAck = -1

instance (ds : List Delivery) (r : Receiver) (d : Delivery) :
    Decidable (ReadsNext crc32 stream ds r d) := by
  unfold ReadsNext
  infer_instance

instance (r : Receiver) (d : Delivery) : Decidable (NoAckPending r d) := by
  unfold NoAckPending
  infer_instance

/-- A datagram of the socket, the ACK for packet `k` with the full window. -/
structure IsAck (k : ℕ) (w : Pkt × List UInt8) : Prop where
  type : w.1.type = .ack
  tr : w.1.tr = 0
  seqnum : w.1.seqnum.toNat = (k + 1) % 256
  window : w.1.window.val = realWindow
  content : w.1.content = some []
  bytes : w.2 = encoding crc32 w.1 []

/-- The state of a receiver whose packets arrived in order, with at most the last one unwritten and
not acknowledged. -/
structure InOrder (ds : List Delivery) (r : Receiver) : Prop extends Aligned stream r where
  ignored : r.packetIgnored = 0
  count : (arrivals ds).length = r.stdout.length + if r.partialAck = -1 then 0 else 1
  table : ∀ k, r.listPkt k ≠ none ↔ k = 0 ∧ r.partialAck ≠ -1
  freePlace : r.freePlace = if r.partialAck = -1 then 4 else 3
  pending : r.partialAck ≠ -1 → r.partialAck = ((r.stdout.length + 1) % 256 : ℕ)
  acks : r.written.length = r.stdout.length
  ack : ∀ k w, r.written[k]? = some w → IsAck crc32 k w

theorem inOrder_init (buffer : Memory) : InOrder crc32 stream [] (Receiver.init buffer) where
  toAligned := aligned_init stream buffer
  ignored := rfl
  count := rfl
  table := by simp [Receiver.init]
  freePlace := rfl
  pending := by simp [Receiver.init]
  acks := rfl
  ack := by simp [Receiver.init]

variable {crc32 stream} {ds : List Delivery} {r : Receiver} {d : Delivery}

/-- With one packet in slot 0 the leading run has length 1. -/
theorem InOrder.leading_run (h : InOrder crc32 stream ds r) (hack : r.partialAck ≠ -1) {s : ℕ}
    (hs : firstEmptyPlace r.listPkt = some s) : s = 1 := by
  obtain ⟨-, hfree, hfull⟩ := firstEmptyPlace_eq_some_iff.mp hs
  by_contra hne
  rcases Nat.lt_or_gt_of_ne hne with hlt | hgt
  · obtain rfl : s = 0 := by omega
    exact absurd hfree ((h.table 0).mpr ⟨rfl, hack⟩)
  · exact absurd ((h.table 1).mp (hfull 1 hgt)).1 (by decide)

/-- The flush is safe, also where it sends ACK number 0. -/
theorem InOrder.flushSafe (h : InOrder crc32 stream ds r) : FlushSafe r := by
  intro hack s hs
  have hlast : r.listPkt (realWindow - 1) = none := by
    by_contra hne
    exact absurd ((h.table _).mp hne).1 (by decide)
  refine ⟨Or.inr (Or.inr hlast), fun hzero => ?_⟩
  have hp := h.pending hack
  rw [hzero] at hp
  rw [h.base, h.leading_run hack hs, Int.tmod_eq_emod_of_nonneg (by omega)]
  unfold realWindow
  omega

/-- The ACK of a flush that leaves the table empty. -/
theorem isAck_ackPkt {m : Receiver} {k s : ℕ} (hack : m.partialAck = ((k + 1) % 256 : ℕ))
    (hfree : m.freePlace + s = 4) (fresh : Pkt) :
    IsAck crc32 k (ackPkt m fresh s, encoding crc32 (ackPkt m fresh s) []) where
  type := rfl
  tr := rfl
  seqnum := by
    simp only [ackPkt, controlPkt, hack, toNat_toUint8_natCast, Nat.mod_mod]
  window := by
    have hval : ((windowField fresh 4).val : ℤ) = 4 := val_windowField (by decide) (by decide)
    rw [← hfree] at hval
    have hfield : ((ackPkt m fresh s).window.val : ℤ) = 4 := hval.trans hfree
    show (ackPkt m fresh s).window.val = 4
    omega
  content := content_controlPkt ..
  bytes := rfl

/-- What changes nothing keeps the invariant. -/
theorem InOrder.keeps {ds' : List Delivery} {m : Receiver} (h : InOrder crc32 stream ds r)
    (hal : Aligned stream m) (hk : Keeps r m) (hds : arrivals ds' = arrivals ds) :
    InOrder crc32 stream ds' m where
  toAligned := hal
  ignored := hk.packetIgnored.trans h.ignored
  count := by
    rw [hds, hk.stdout, hk.partialAck]
    exact h.count
  table := by
    rw [hk.table, hk.partialAck]
    exact h.table
  freePlace := by
    rw [hk.freePlace, hk.partialAck]
    exact h.freePlace
  pending := by
    rw [hk.partialAck, hk.stdout]
    exact h.pending
  acks := by
    rw [hk.written, hk.stdout]
    exact h.acks
  ack := by
    rw [hk.written]
    exact h.ack

/-- Storing the next packet: it goes to slot 0. -/
theorem InOrder.stores {m : Receiver} {pkt : Pkt} (h : InOrder crc32 stream ds r)
    (hyes : d.1.Reads) (hd : d.2 = r.stdout.length) (hack : r.partialAck = -1)
    (hal : Aligned stream m) (hst : Stores r m d.2 0 pkt) :
    InOrder crc32 stream (ds ++ [d]) m where
  toAligned := hal
  ignored := hst.packetIgnored.trans h.ignored
  count := by
    have hcount := h.count
    rw [if_pos hack] at hcount
    rw [arrivals_snoc, if_pos hyes, if_neg (by rw [hst.partialAck]; omega), hst.stdout,
      List.length_append, hcount]
    rfl
  table := by
    have hne : m.partialAck ≠ -1 := by
      rw [hst.partialAck]
      omega
    intro k
    rw [hst.table]
    by_cases hk : k = 0
    · subst hk
      simp [hne]
    · rw [Function.update_of_ne hk, h.table]
      simp [hk]
  freePlace := by
    rw [hst.freePlace, h.freePlace, if_pos hack, if_neg (by rw [hst.partialAck]; omega)]
    rfl
  pending := by
    intro _
    rw [hst.partialAck, hst.stdout, hd]
  acks := by
    rw [hst.written, hst.stdout]
    exact h.acks
  ack := by
    rw [hst.written]
    exact h.ack

/-- The input half. -/
theorem InOrder.receive {m : Receiver} (h : InOrder crc32 stream ds r)
    (hnext : d.1.Reads → d.2 = (arrivals ds).length) (hidle : NoAckPending r d)
    (hal : Aligned stream m) (heff : ReceiveEffect stream r m d) :
    InOrder crc32 stream (ds ++ [d]) m := by
  rcases heff with ⟨hno, hk⟩ | ⟨hyes, hfree, pkt, hpkt, hst⟩ | ⟨hyes, htaken, -⟩
  · exact h.keeps hal hk (by rw [arrivals_snoc, if_neg hno, List.append_nil])
  · have hcount := h.count
    rw [if_pos (hidle hyes)] at hcount
    have hd : d.2 = r.stdout.length := (hnext hyes).trans hcount
    rw [show d.2 - r.stdout.length = 0 by omega] at hst
    exact h.stores hyes hd (hidle hyes) hal hst
  · exact absurd (hidle hyes) ((h.table _).mp htaken).2

/-- A flush: the packet is written and acknowledged. -/
theorem InOrder.flushes {m r' : Receiver} {fresh : Pkt} {s : ℕ} (h : InOrder crc32 stream ds m)
    (hal : Aligned stream r') (hf : Flushes crc32 m r' fresh s) :
    InOrder crc32 stream ds r' := by
  have hack := hf.pending
  obtain rfl := h.leading_run hack hf.first
  have hfree : m.freePlace = 3 := by
    rw [h.freePlace, if_neg hack]
  refine ⟨hal, hf.packetIgnored.trans h.ignored, ?_, ?_, ?_, ?_, ?_, ?_⟩
  · rw [h.count, if_neg hack, if_pos hf.partialAck, hf.stdout_length]
  · intro k
    rw [hf.table, hf.partialAck]
    simp [h.table]
  · rw [hf.freePlace, hfree, if_pos hf.partialAck]
    rfl
  · intro hne
    exact absurd hf.partialAck hne
  · rw [hf.written, hf.stdout_length, List.length_append, h.acks]
    rfl
  · intro k w hw
    rw [hf.written] at hw
    by_cases hlt : k < m.written.length
    · rw [List.getElem?_append_left hlt] at hw
      exact h.ack k w hw
    · rw [List.getElem?_append_right (by omega)] at hw
      have hk : k = m.stdout.length := by
        have := (List.getElem?_eq_some_iff.mp hw).1
        rw [List.length_singleton, h.acks] at this
        rw [h.acks] at hlt
        omega
      subst hk
      rw [h.acks, Nat.sub_self] at hw
      obtain rfl := Option.some.inj hw
      exact isAck_ackPkt (h.pending hack) (by rw [hfree]; rfl) fresh

/-- The output half. -/
theorem InOrder.reply {m r' : Receiver} {e : ReceiverPoll} (h : InOrder crc32 stream ds m)
    (hal : Aligned stream r') (heff : ReplyEffect crc32 m r' e) :
    InOrder crc32 stream ds r' := by
  rcases heff with ⟨hk, -⟩ | ⟨-, s, hf⟩
  · exact h.keeps hal hk rfl
  · exact h.flushes hal hf

/-- **One iteration.**  Reading the next packet with no ACK pending has an outcome and keeps the
invariant, in the middle of the iteration and at its end. -/
theorem InOrder.step (h : InOrder crc32 stream ds r) (hok : ReadsNext crc32 stream ds r d)
    (hne : d.1.Reads → stream d.2 ≠ []) (hidle : NoAckPending r d) :
    ∃ m r', deliver crc32 r d = some r' ∧ r'.status ≠ .endOfData ∧
      TrtpNetwork.receive crc32 r d.1 = some m ∧ InOrder crc32 stream (ds ++ [d]) m ∧
      InOrder crc32 stream (ds ++ [d]) r' ∧
      ReceiveEffect stream r m d ∧ ReplyEffect crc32 m r' d.1 := by
  obtain ⟨hrunning, hread, hnext⟩ := hok
  have hd : d.1.Reads → d.2 = r.stdout.length := by
    intro hyes
    have hcount := h.count
    rw [if_pos (hidle hyes)] at hcount
    exact (hnext hyes).trans hcount
  have hwindow : InWindow r d := by
    intro hyes
    rw [hd hyes]
    unfold realWindow
    omega
  have hblock : SameBlock r d := fun hyes => by rw [hd hyes]
  obtain ⟨m, hm, hmal, hend, hrcv⟩ :=
    h.toAligned.receive crc32 hrunning hne hread hwindow hblock
  have hmord := h.receive hnext hidle hmal hrcv
  obtain ⟨r', hr', hal, hgoes, hrep⟩ := hmal.reply crc32 d.1 fun _ => hmord.flushSafe
  exact ⟨m, r', (readWriteLoop_of_receive crc32 hrunning hm hend).trans hr', hgoes hend, hm, hmord,
    hmord.reply hal hrep, hrcv, hrep⟩

/-- After an iteration that reads, and finds the socket writable, no ACK is pending. -/
theorem InOrder.flushed {m r' : Receiver} (hidle : r.partialAck = -1)
    (hout : d.1.Reads → d.1.writable = .pollout) (hrcv : ReceiveEffect stream r m d)
    (hrep : ReplyEffect crc32 m r' d.1) : r'.partialAck = -1 := by
  rcases hrep with ⟨hk, hflush⟩ | ⟨-, s, hf⟩
  · rw [hk.partialAck]
    by_cases hyes : d.1.Reads
    · exact hflush (hout hyes)
    · rcases hrcv with ⟨-, hk'⟩ | ⟨hyes', -⟩ | ⟨hyes', -⟩
      · exact hk'.partialAck.trans hidle
      · exact absurd hyes' hyes
      · exact absurd hyes' hyes
  · exact hf.partialAck

/-- **The end of the transfer.**  An empty packet that is read with no ACK pending leaves the loop
with the output as it was. -/
theorem InOrder.closes (h : InOrder crc32 stream ds r) (hidle : r.partialAck = -1)
    (hrunning : r.status = .running) (hyes : d.1.Reads) (hread : ReadsPacket crc32 stream r d)
    (hempty : stream d.2 = []) :
    ∃ r', TrtpNetwork.receive crc32 r d.1 = some r' ∧ deliver crc32 r d = some r' ∧
      r'.status = .endOfData ∧ Keeps r r' := by
  obtain ⟨pkt, buffer, t, hpkt, hrcv⟩ := receive_of_reads crc32 hyes hread
  have hfree : r.listPkt 0 = none := by
    by_contra hne
    exact ((h.table 0).mp hne).2 hidle
  have hscan : scanWhile (fun p => p.any fun pkt => pkt.length > 0) r.listPkt receiveCells 0 =
      some 0 := by
    refine scanWhile_zero_eq_some_iff.mpr ⟨by decide, ?_, fun j hj => absurd hj (by omega)⟩
    rw [hfree]
    rfl
  have hclose : closeTransfer { r with buffer := buffer, lastTimePkt := t } pkt =
      some { r with buffer := buffer, lastTimePkt := t, status := .endOfData } := by
    unfold closeTransfer
    simp [hscan, pktDel_of_content hpkt.2.2]
  rw [if_pos hempty, hclose] at hrcv
  exact ⟨_, hrcv, readWriteLoop_of_ended crc32 hrunning hrcv rfl, rfl, rfl, rfl, rfl, rfl, rfl, rfl⟩

end TrtpNetwork
