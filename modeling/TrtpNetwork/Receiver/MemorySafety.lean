import TrtpNetwork.Packet.Confined
import TrtpNetwork.Receiver.Pointers

/-!
# The memory the receiver touches

There are two ways in which what is read can take `read_write_loop` out of the memory it owns.
`pkt_decode` follows a length field of 497 to 512 behind the 512 bytes of the buffer
(`ReadsBehind`).  And the slot of a packet is computed with C's remainder: a number below `base_r`,
other than 0, leads in front of the table (`ReadsBelowBase`).  Nothing else does.  The scans of the
table stop at slot 4, which is always `NULL`, whatever is printed was accepted, and with it its
payload, and replies have none.

So an iteration has an outcome if and only if it does neither.  For the loop with packets, which
gives the bytes behind the buffer some value, the slot is what matters (`exists_readWriteLoop_iff`).
The result for the loop with pointers, its reads confined to the buffer, holds as long as each flush
takes every packet along (`receiver_defined_iff`).
-/

namespace TrtpNetwork

/-- One iteration of `read_write_loop`, with the reads of `pkt_decode` confined to the buffer. -/
def Pointers.readWriteLoopIn (crc32 : List UInt8 → UInt32) (q : PointerReceiver)
    (e : ReceiverPoll) : Option PointerReceiver :=
  if q.vars.status = .running then
    match e.readable with
    | .pollin result => do
      let _ ← decodeReadIn crc32 q.vars.buffer result e.beyond e.freshRcv
      Pointers.readWriteLoop crc32 q e
    | _ => Pointers.readWriteLoop crc32 q e
  else Pointers.readWriteLoop crc32 q e

/-- The iteration reads a datagram that announces more than the buffer holds. -/
def ReadsBehind (crc32 : List UInt8 → UInt32) (r : Receiver) (e : ReceiverPoll) : Prop :=
  ∃ result, e.readable = .pollin result ∧ RunsOut crc32 (readInto r.buffer result) e.freshRcv

/-- What is decoded is to be stored, and has a number below `base_r` other than 0. -/
def BelowBase (r : Receiver) (decoded : PktStatusCode × Pkt) : Prop :=
  decoded.1 = .pktOk ∧ decoded.2.type ≠ .nack ∧
    ¬ (decoded.2.length = 0 ∧ decoded.2.type = .data) ∧
    decoded.2.seqnum.toNat ≠ 0 ∧ (decoded.2.seqnum.toNat : ℤ) < r.baseR

/-- The iteration reads such a packet. -/
def ReadsBelowBase (crc32 : List UInt8 → UInt32) (r : Receiver) (e : ReceiverPoll) : Prop :=
  ∃ result, e.readable = .pollin result ∧
    BelowBase r (decodeRead crc32 r.buffer result e.beyond e.freshRcv)

instance (r : Receiver) (decoded : PktStatusCode × Pkt) : Decidable (BelowBase r decoded) := by
  unfold BelowBase
  infer_instance

variable {crc32 : List UInt8 → UInt32} {r r' m : Receiver} {e : ReceiverPoll}

/-- A packet of a stream is of this kind if it is not empty and has such a number. -/
theorem ReadsPacket.readsBelowBase_iff {stream : ℕ → List UInt8} {d : Delivery}
    {result : ReadResult} (h : ReadsPacket crc32 stream r d)
    (hread : d.1.readable = .pollin result) :
    ReadsBelowBase crc32 r d.1 ↔
      stream d.2 ≠ [] ∧ d.2 % 256 ≠ 0 ∧ ((d.2 % 256 : ℕ) : ℤ) < r.baseR := by
  obtain ⟨hok, hpacket⟩ := h result hread
  have hempty := hpacket.length_eq_zero_iff
  obtain ⟨htype, hnum, -⟩ := hpacket
  constructor
  · rintro ⟨result', hresult, hbelow⟩
    obtain rfl := Readable.pollin.inj (hread.symm.trans hresult)
    obtain ⟨-, -, hopen, hne, hlt⟩ := hbelow
    rw [hnum] at hne hlt
    exact ⟨fun hnil => hopen ⟨hempty.mpr hnil, htype⟩, hne, hlt⟩
  · rintro ⟨hnil, hne, hlt⟩
    refine ⟨result, hread, hok, ?_, fun hend => hnil (hempty.mp hend.1), ?_, ?_⟩
    · rw [htype]
      decide
    · rwa [hnum]
    · rwa [hnum]

/-! ## The input half -/

/-- **The end of the transfer** has an outcome: the loop over the front of the table stops at slot 4
at the latest. -/
theorem exists_closeTransfer (h : Flushable r.listPkt) {pkt : Pkt} (hempty : pkt.length = 0) :
    ∃ m, closeTransfer r pkt = some m := by
  obtain ⟨n, bytes, hn, hbytes⟩ := h.exists_closingRun
  exact ⟨_, closeTransfer_eq hn hbytes (pktDel_of_length hempty)⟩

theorem baseInWindow_init (buffer : Memory) : BaseInWindow (Receiver.init buffer) :=
  ⟨Int.le_refl 0, show (0 : ℤ) < realWindow by decide⟩

/-- **A packet has a slot** if and only if its number is 0 or not below `base_r`. -/
theorem BaseInWindow.exists_placePacket_iff (h : BaseInWindow r) (pkt : Pkt) :
    (∃ m, placePacket r pkt = some m) ↔
      pkt.seqnum.toNat = 0 ∨ r.baseR ≤ pkt.seqnum.toNat := by
  rw [← h.indexInRange_iff]
  constructor
  · rintro ⟨m, hm⟩
    obtain ⟨k, hk, -⟩ := placePacket_cases hm
    exact ⟨k, (slotIndex_eq_some hk).1, hk⟩
  · rintro ⟨k, -, hk⟩
    rcases eq_or_ne (r.listPkt k) none with hfree | htaken
    · exact ⟨_, placePacket_of_free hk hfree⟩
    · exact ⟨_, placePacket_of_taken hk htaken⟩

/-- **What is decoded** can be handled unless it has no slot. -/
theorem exists_handlePacket_iff (hbase : BaseInWindow r) (h : Flushable r.listPkt)
    (decoded : PktStatusCode × Pkt) :
    (∃ m, handlePacket r decoded = some m) ↔ ¬ BelowBase r decoded := by
  rw [handlePacket]
  by_cases hbad : decoded.1 ≠ .pktOk ∨ decoded.2.type = .nack
  · rw [if_pos hbad]
    refine iff_of_true ⟨_, rfl⟩ ?_
    rintro ⟨hok, hnack, -⟩
    rcases hbad with hbad | hbad
    · exact hbad hok
    · exact hnack hbad
  obtain ⟨hok, hnack⟩ := not_or.mp hbad
  rw [if_neg hbad, goodPacket]
  -- the timestamp does not matter for what is done with the packet
  obtain ⟨t, ht⟩ := exists_stamped r decoded.2.timestamp
  simp only [ht]
  by_cases hend : decoded.2.length = 0 ∧ decoded.2.type = .data
  · rw [if_pos hend]
    refine iff_of_true (exists_closeTransfer (r := { r with lastTimePkt := t }) h hend.1) ?_
    rintro ⟨-, -, hopen, -⟩
    exact hopen hend
  · rw [if_neg hend]
    have hplace := BaseInWindow.exists_placePacket_iff (r := { r with lastTimePkt := t }) hbase
      decoded.2
    rw [hplace]
    constructor
    · rintro (h0 | hle) ⟨-, -, -, hne, hlt⟩
      · exact hne h0
      · exact absurd hle (not_le.mpr hlt)
    · intro hslot
      by_contra hnone
      obtain ⟨hne, hlt⟩ := not_or.mp hnone
      exact hslot ⟨not_not.mp hok, hnack, hend, hne, not_le.mp hlt⟩

theorem exists_receive_iff (hbase : BaseInWindow r) (h : Flushable r.listPkt) (e : ReceiverPoll) :
    (∃ m, receive crc32 r e = some m) ↔ ¬ ReadsBelowBase crc32 r e := by
  rw [receive]
  cases he : e.readable with
  | idle =>
    refine iff_of_true ⟨r, rfl⟩ ?_
    rintro ⟨result, hresult, -⟩
    rw [he] at hresult
    cases hresult
  | other =>
    refine iff_of_true ⟨_, rfl⟩ ?_
    rintro ⟨result, hresult, -⟩
    rw [he] at hresult
    cases hresult
  | pollin result =>
    have hhandle := exists_handlePacket_iff (r := { r with buffer := readInto r.buffer result })
      hbase h (decodeRead crc32 r.buffer result e.beyond e.freshRcv)
    refine hhandle.trans (not_congr ?_)
    constructor
    · exact fun hbelow => ⟨result, he, hbelow⟩
    · rintro ⟨result', hresult, hbelow⟩
      obtain rfl := Readable.pollin.inj (he.symm.trans hresult)
      exact hbelow

/-! ## Runs -/

/-- **When an iteration has an outcome**: unless it runs and reads a packet that has no slot. -/
theorem exists_readWriteLoop_iff (hbase : BaseInWindow r) (h : Flushable r.listPkt)
    (e : ReceiverPoll) :
    (∃ r', readWriteLoop crc32 r e = some r') ↔
      (r.status = .running → ¬ ReadsBelowBase crc32 r e) := by
  rw [← exists_receive_iff hbase h e]
  constructor
  · rintro ⟨r', hr'⟩ hon
    rcases readWriteLoop_cases crc32 hr' with ⟨hoff, -⟩ | ⟨-, m, hm, -⟩
    · exact absurd hon hoff
    · exact ⟨m, hm⟩
  · intro hreads
    by_cases hon : r.status = .running
    · obtain ⟨m, hm⟩ := hreads hon
      by_cases hend : m.status = .endOfData
      · exact ⟨m, readWriteLoop_of_ended crc32 hon hm hend⟩
      · obtain ⟨r', -, hr', -, -⟩ := exists_reply_agree crc32 (h.receive hm) rfl e
        exact ⟨r', (readWriteLoop_of_receive crc32 hon hm hend).trans hr'⟩
    · exact ⟨r, by rw [readWriteLoop, if_neg hon]⟩

/-- Confined to the buffer, an iteration does the same unless it looks behind it. -/
theorem readWriteLoopIn_eq_some_iff {q q' : PointerReceiver} :
    Pointers.readWriteLoopIn crc32 q e = some q' ↔
      (q.vars.status = .running → ¬ ReadsBehind crc32 q.vars e) ∧
        Pointers.readWriteLoop crc32 q e = some q' := by
  unfold Pointers.readWriteLoopIn ReadsBehind
  by_cases hon : q.vars.status = .running
  swap
  · rw [if_neg hon]
    exact ⟨fun h => ⟨fun hon' => absurd hon' hon, h⟩, fun h => h.2⟩
  rw [if_pos hon]
  cases he : e.readable with
  | idle => simp
  | other => simp
  | pollin result =>
    simp only [decodeReadIn_eq]
    by_cases hout : RunsOut crc32 (readInto q.vars.buffer result) e.freshRcv
    · simp [hon, hout]
    · simp [hout]

/-- **What can go wrong in an iteration of the receiver.**  In the runs whose flushes take every
packet along, whatever is read: an iteration has an outcome if and only if it reads no datagram that
announces more than the buffer holds, and no accepted packet, neither a NACK nor the end of the
transfer, whose number is below `base_r` and not 0. -/
theorem receiver_defined_iff (crc32 : List UInt8 → UInt32) (buffer : Memory)
    (es : List ReceiverPoll) (q : PointerReceiver)
    (hrun : Run (Pointers.readWriteLoopIn crc32) (fun _ q e => FlushesWhole crc32 q.packets e)
      (PointerReceiver.init buffer) es q) (e : ReceiverPoll) :
    (∃ q', Pointers.readWriteLoopIn crc32 q e = some q') ↔
      (q.vars.status = .running →
        ¬ ReadsBehind crc32 q.vars e ∧ ¬ ReadsBelowBase crc32 q.vars e) := by
  have hrun' := hrun.mono_step fun s e s' hs => (readWriteLoopIn_eq_some_iff.mp hs).2
  obtain ⟨r, hr, hshows⟩ := exists_shows_of_run hrun'
  have hbase : BaseInWindow r := by
    refine hr.invariant (I := fun _ r => BaseInWindow r) (baseInWindow_init buffer) ?_
    intro es r e r' h _ hstep
    exact h.step hstep
  have hflush := flushable_of_run hr
  have hgoes : (∃ q', Pointers.readWriteLoop crc32 q e = some q') ↔
      (q.vars.status = .running → ¬ ReadsBelowBase crc32 q.vars e) := by
    rw [exists_iff_of_rel (rel_readWriteLoop hshows hflush e),
      exists_readWriteLoop_iff hbase hflush e]
    obtain ⟨table, rfl⟩ : ∃ table, r = { q.vars with listPkt := table } := ⟨_, hshows.vars⟩
    exact Iff.rfl
  simp only [readWriteLoopIn_eq_some_iff, exists_and_left, hgoes, forall_and]

/-- A packet with 500 bytes of payload. -/
def longDelivery : Delivery :=
  streamDelivery zlibCrc32 (fun _ => List.replicate 500 0) blankPkt 3 .pollout

/-- Of the packets of a stream, those of more than 496 bytes are read so. -/
theorem readsBehind_streamDelivery_iff (crc32 : List UInt8 → UInt32) {stream : ℕ → List UInt8}
    {i : ℕ} (hlen : (stream i).length ≤ 512) (fresh : Pkt) (writable : Writable) (r : Receiver) :
    ReadsBehind crc32 r (streamDelivery crc32 stream fresh i writable).1 ↔
      496 < (stream i).length := by
  have hout : RunsOut crc32 (readInto r.buffer (.bytes (encoding crc32
      (dataPkt fresh (stream i) i realWindow 0) (stream i)))) fresh ↔ 496 < (stream i).length :=
    runsOut_encoding_iff (content_dataPkt hlen fresh i realWindow 0) rfl hlen r.buffer fresh
  rw [← hout]
  constructor
  · rintro ⟨result, hresult, hout⟩
    obtain rfl := Readable.pollin.inj hresult
    exact hout
  · exact fun hout => ⟨_, rfl, hout⟩

/-- With `base_r` at 3, the next packet can be read.  Another copy of packet 2 cannot, and neither
can a packet of 500 bytes. -/
theorem receiver_defined_threeFlushed :
    ∃ q : PointerReceiver, q.vars.baseR = 3 ∧
      (∃ q', Pointers.readWriteLoopIn zlibCrc32 q
        (streamDelivery zlibCrc32 countingStream blankPkt 3 .pollout).1 = some q') ∧
      (¬ ∃ q', Pointers.readWriteLoopIn zlibCrc32 q
        (streamDelivery zlibCrc32 countingStream blankPkt 2 .pollout).1 = some q') ∧
      ¬ ∃ q', Pointers.readWriteLoopIn zlibCrc32 q longDelivery.1 = some q' := by
  obtain ⟨q, hq, hview⟩ := exists_run_of_follow (Pointers.readWriteLoopIn zlibCrc32)
    (fun _ q e => FlushesWhole zlibCrc32 q.packets e) (PointerReceiver.init fun _ => 0)
    threeFlushed (fun q => (q.vars.baseR, q.vars.status))
    (show _ = some (3, .running) by decide +kernel)
  obtain ⟨hbase, hon⟩ := Prod.mk.inj hview
  have hread : ∀ i, ReadsBelowBase zlibCrc32 q.vars
      (streamDelivery zlibCrc32 countingStream blankPkt i .pollout).1 ↔
        countingStream i ≠ [] ∧ i % 256 ≠ 0 ∧ ((i % 256 : ℕ) : ℤ) < 3 := by
    intro i
    have hpacket : ReadsPacket zlibCrc32 countingStream q.vars
        (streamDelivery zlibCrc32 countingStream blankPkt i .pollout) :=
      readsPacket_streamDelivery zlibCrc32 countingStream
        (show (countingStream i).length ≤ 496 from Nat.one_le_ofNat) .pollout q.vars
    rw [← hbase]
    exact hpacket.readsBelowBase_iff rfl
  have hshort : ¬ ReadsBehind zlibCrc32 q.vars
      (streamDelivery zlibCrc32 countingStream blankPkt 3 .pollout).1 :=
    mt (readsBehind_streamDelivery_iff zlibCrc32 (by decide) blankPkt .pollout q.vars).mp
      (by decide)
  have hlong : ReadsBehind zlibCrc32 q.vars longDelivery.1 := by
    have hsize : (List.replicate 500 (0 : UInt8)).length = 500 := List.length_replicate
    refine (readsBehind_streamDelivery_iff zlibCrc32 ?_ blankPkt .pollout q.vars).mpr ?_
    · exact hsize.le.trans (by decide)
    · exact (show 496 < 500 by decide).trans_eq hsize.symm
  have hiff := receiver_defined_iff zlibCrc32 _ _ q hq
  refine ⟨q, hbase, (hiff _).mpr fun _ => ⟨hshort, mt (hread 3).mp (by decide)⟩, ?_, ?_⟩
  · exact fun h => ((hiff _).mp h hon).2 ((hread 2).mpr (by decide))
  · exact fun h => ((hiff _).mp h hon).1 hlong

end TrtpNetwork
