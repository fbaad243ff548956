import TrtpNetwork.Sender.Table

/-!
# The packets made of a file

`clear_and_fill_buffer` makes all data packets, 50 before the loop starts and then, for each ACK, as
many as there are free slots at the front of the table.  The position in the file is nowhere: it is
where `fread` stopped, and the number of a packet is a counter of its own.  `createStep` keeps a
record of the packets in the order they are made (`inserted`), and `createsChunks_of_run` is the law
of it: packet `i` of the record has number `i` and chunk `i` of the file, whatever ACKs arrive, with
whatever windows.

The length of a chunk fits its 16-bit field, and the encoding the buffer, because of `chunkSize`;
the number is reduced to 8 bits.  The counter is an `int` in the source, so that the model follows
it through the first 2 ^ 31 packets.
-/

namespace TrtpNetwork

variable (crc32 : List UInt8 → UInt32)

/-! ## The record -/

/-- The packets in the last `n` slots, in order. -/
def inserted (n : ℕ) (s : Sender) : List Pkt :=
  (List.range' (tableSize - n) n).filterMap fun i => (s.listPkt i).bind s.packets

/-- The packets made for an ACK: its call of `clear_and_fill_buffer` puts them into as many slots at
the end of the table as it finds free at the front. -/
def createdFor (fill : FillInputs) (s : Sender) (ack : Pkt) : Option (List Pkt) := do
  let d ← deleteAcked { s with base := ackedBase s ack.seqnum.toNat } ack.seqnum.toNat
  let n ← scanWhile Option.isNone d.listPkt tableSize 0
  let m ← clearAndFillBuffer crc32 fill ack.window.val d
  some (inserted n m)

/-- The packets made in an iteration. -/
def createdIn (s : Sender) (e : SenderPoll) : List Pkt :=
  ((ackProcessed crc32 s e).bind
    (createdFor crc32 e.fill { s with buffer := readBuffer s e })).getD []

/-- One iteration of the sender, with a record of the packets made. -/
def createStep (t : Sender × List Pkt) (e : SenderPoll) : Option (Sender × List Pkt) :=
  (readWriteLoopSender crc32 t.1 e).map fun s => (s, t.2 ++ createdIn crc32 t.1 e)

/-- The packet is the data packet for position `i` of the file, and its encoding takes up at most
504 bytes of a buffer of 512. -/
structure IsCreated (file : List UInt8) (i : ℕ) (pkt : Pkt) : Prop where
  type : pkt.type = .data
  seqnum : pkt.seqnum.toNat = i % 256
  payload : pkt.content = some ((file.drop (488 * i)).take 488)
  length : pkt.length.toNat = min (488 * (i + 1)) file.length - 488 * i
  encodes : ∀ buf, ∃ encoded, pktEncode crc32 pkt buf maxBufferSize = some encoded ∧
    encoded.status = .pktOk ∧ encoded.len ≤ 504 ∧ ∀ j, 504 ≤ j → encoded.buf j = buf j

/-- A call of `clear_and_fill_buffer` makes `n` packets. -/
structure MakesPackets (n : ℕ) (s s' : Sender) : Prop where
  count : (inserted n s').length = n
  counter : s'.seqnum = s.seqnum + n
  others : ∀ p, p < s.seqnum ∨ s.seqnum + n ≤ p → s'.packets p = s.packets p

/-! ## One packet -/

variable {crc32} {file : List UInt8} {s s' : Sender}

theorem length_chunk (file : List UInt8) (i : ℕ) :
    (chunk file i).length = min (488 * (i + 1)) file.length - 488 * i := by
  rw [chunk, chunkSize, List.length_take, List.length_drop]
  omega

theorem isCreated_of_isFilePacket {i : ℕ} {pkt : Pkt} (h : IsFilePacket file i pkt) :
    IsCreated crc32 file i pkt where
  type := h.1.1
  seqnum := h.1.2.1
  payload := h.1.2.2
  length := by
    rw [← Payload.length_of_read h.1.2.2, length_chunk]
  encodes := by
    intro buf
    have hsize : (encoding crc32 pkt (chunk file i)).length ≤ 504 :=
      (length_encoding_le crc32 pkt _).trans (Nat.add_le_add_left (length_chunk_le file i) 16)
    refine ⟨_, pktEncode_eq crc32 h.1.2.2 buf maxBufferSize, rfl, hsize, fun j hj => ?_⟩
    have hend : 0 + (encoding crc32 pkt (chunk file i)).length ≤ j := by omega
    exact memcpy_of_ge hend

/-! ## One call -/

/-- The packets in the last slots, when these point to `n` positions in a row. -/
theorem inserted_eq {n : ℕ} (c : ℕ) {v : ℕ → Pkt}
    (h : ∀ j < n, s.listPkt (tableSize - n + j) = some (c + j) ∧ s.packets (c + j) = some (v j)) :
    inserted n s = (List.range n).map v := by
  rw [inserted, List.range'_eq_map_range, List.filterMap_map, ← List.filterMap_eq_map]
  refine List.filterMap_congr fun j hj => ?_
  obtain ⟨hslot, hpkt⟩ := h j (List.mem_range.mp hj)
  simp only [Function.comp_apply, hslot, Option.bind_some, hpkt]

/-- **The packets a call makes**, as they are in the last slots after it. -/
theorem inserted_clearAndFillBuffer {fill : FillInputs} {win : ℤ} {n : ℕ}
    (hn : scanWhile Option.isNone s.listPkt tableSize 0 = some n)
    (h : clearAndFillBuffer crc32 fill win s = some s') :
    inserted n s' = (List.range n).map fun j => filledPkt fill win s (s.seqnum + j) := by
  have hle : n ≤ tableSize := (scanWhile_zero_eq_some_iff.mp hn).1.le
  rw [clearAndFillBuffer_eq crc32 fill win hn] at h
  obtain rfl := Option.some.inj h
  refine inserted_eq s.seqnum fun j hj => ⟨?_, ?_⟩
  · show refilled s.listPkt s.seqnum n (tableSize - n + j) = some (s.seqnum + j)
    rw [refilled_apply hle (by omega), if_pos (by omega)]
    congr 2
    omega
  · show overwrite s.packets s.seqnum n _ (s.seqnum + j) = _
    rw [overwrite_of_mem _ _ (by omega) (by omega)]

theorem makesPackets_clearAndFillBuffer {fill : FillInputs} {win : ℤ} {n : ℕ}
    (hn : scanWhile Option.isNone s.listPkt tableSize 0 = some n)
    (h : clearAndFillBuffer crc32 fill win s = some s') : MakesPackets n s s' := by
  have hinserted := inserted_clearAndFillBuffer hn h
  rw [clearAndFillBuffer_eq crc32 fill win hn] at h
  obtain rfl := Option.some.inj h
  refine ⟨by rw [hinserted, List.length_map, List.length_range], rfl, fun p hp => ?_⟩
  show overwrite s.packets s.seqnum n _ p = s.packets p
  rw [overwrite, if_neg (by omega)]

/-! ## Runs -/

/-- The record is complete, and every packet of it is right. -/
structure Recorded (crc32 : List UInt8 → UInt32) (file : List UInt8) (t : Sender × List Pkt) :
    Prop where
  length : t.2.length = t.1.seqnum
  created : ∀ i (hi : i < t.2.length), IsCreated crc32 file i t.2[i]

/-- A record with `n` packets more. -/
theorem Recorded.append {made : List Pkt} (h : Recorded crc32 file (s, made)) {n : ℕ} {v : ℕ → Pkt}
    (hv : ∀ j < n, IsCreated crc32 file (s.seqnum + j) (v j)) (hseq : s'.seqnum = s.seqnum + n) :
    Recorded crc32 file (s', made ++ (List.range n).map v) where
  length := by
    have hlen : made.length = s.seqnum := h.length
    simp only [List.length_append, List.length_map, List.length_range, hlen, hseq]
  created := by
    intro i hi
    have hlen : made.length = s.seqnum := h.length
    have hi' : i < made.length + n := by
      simpa only [List.length_append, List.length_map, List.length_range] using hi
    by_cases hold : i < made.length
    · simp only [List.getElem_append_left hold]
      exact h.created i hold
    · have hnew := hv (i - made.length) (by omega)
      rw [← hlen, Nat.add_sub_cancel' (by omega)] at hnew
      simpa [List.getElem_append_right (Nat.le_of_not_lt hold)] using hnew

/-- **An ACK adds the packets made for it to the record.** -/
theorem Recorded.handleAck {made : List Pkt} (hgen : Genuine crc32 file s)
    (h : Recorded crc32 file (s, made)) {fill : FillInputs} {ack : Pkt}
    (hack : TrtpNetwork.handleAck crc32 fill s ack = some s') :
    Recorded crc32 file (s', made ++ (createdFor crc32 fill s ack).getD []) := by
  obtain ⟨d, m, hd, hm, rfl⟩ := handleAck_cases crc32 hack
  have hbase : Genuine crc32 file { s with base := ackedBase s ack.seqnum.toNat } :=
    hgen.mono rfl rfl rfl fun _ _ hq => hq
  have hdel := hbase.deleteAcked hd
  have hseq : d.seqnum = s.seqnum := by
    rcases deleteAcked_cases hd with rfl | ⟨k, p, -, -, -, -, rfl⟩ <;> rfl
  obtain ⟨n, hn, -⟩ := clearAndFillBuffer_cases crc32 hm
  have hfor : createdFor crc32 fill s ack = some (inserted n m) := by
    unfold createdFor
    simp only [hd, hn, hm, Option.bind_eq_bind, Option.bind_some]
  rw [hfor, Option.getD_some, inserted_clearAndFillBuffer hn hm]
  refine h.append (fun j _ => ?_) ?_
  · rw [hseq]
    have hfile := hdel.filledPkt fill ack.window.val (p := s.seqnum + j) (by omega)
    exact isCreated_of_isFilePacket hfile
  · show m.seqnum = s.seqnum + n
    rw [(makesPackets_clearAndFillBuffer hn hm).counter, hseq]

theorem Recorded.congr {made : List Pkt} (h : Recorded crc32 file (s, made))
    (hseq : s'.seqnum = s.seqnum) : Recorded crc32 file (s', made) :=
  ⟨h.length.trans hseq.symm, h.created⟩

/-- **One iteration.** -/
theorem Recorded.step {made : List Pkt} (hgen : Genuine crc32 file s)
    (h : Recorded crc32 file (s, made)) {e : SenderPoll}
    (hstep : readWriteLoopSender crc32 s e = some s') :
    Recorded crc32 file (s', made ++ createdIn crc32 s e) := by
  unfold createdIn ackProcessed
  rcases readWriteLoopSender_cases crc32 hstep with ⟨hstop, rfl⟩ | ⟨hrunning, m, hm, hm'⟩
  · rw [if_neg hstop]
    simpa using h
  · rw [if_pos hrunning]
    have hrcv : Recorded crc32 file (m, made ++ ((ackRead crc32 s e).bind
        (createdFor crc32 e.fill { s with buffer := readBuffer s e })).getD []) := by
      rcases senderReceive_cases crc32 hm with ⟨hno, hf⟩ | ⟨ack, hack, hhandle⟩
      · rw [hno]
        simpa using h.congr hf.seqnum
      · have hbuf : Genuine crc32 file { s with buffer := readBuffer s e } :=
          hgen.mono rfl rfl rfl fun _ _ hq => hq
        have hrec : Recorded crc32 file ({ s with buffer := readBuffer s e }, made) := h.congr rfl
        rw [hack, Option.bind_some]
        exact hrec.handleAck hbuf hhandle
    rcases hm' with ⟨-, rfl⟩ | ⟨-, hreply⟩
    · exact hrcv
    · exact hrcv.congr (outputFrame_of_senderReply crc32 hreply).seqnum

/-- The first 50 packets. -/
theorem recorded_of_starts (hgen : Genuine crc32 file s) (h : Starts s) :
    Recorded crc32 file (s, inserted tableSize s) := by
  have hall : ∀ p < tableSize, ∃ pkt, s.packets p = some pkt :=
    fun p hp => Option.ne_none_iff_exists'.mp (h.allocated p hp)
  have hinserted := inserted_eq (s := s) (n := tableSize) 0
    (v := fun p => (s.packets p).getD s.lastAck) fun j hj => by
      obtain ⟨pkt, hpkt⟩ := hall j hj
      rw [Nat.sub_self, Nat.zero_add, h.listPkt j hj, hpkt]
      exact ⟨rfl, rfl⟩
  rw [hinserted, ← List.nil_append (List.map _ _)]
  have hnone : Recorded crc32 file ({ s with seqnum := 0 }, []) :=
    ⟨rfl, fun i hi => absurd hi (Nat.not_lt_zero i)⟩
  refine hnone.append (fun j hj => ?_) ?_
  · obtain ⟨pkt, hpkt⟩ := hall j hj
    simp only [hpkt, Option.getD_some, Nat.zero_add]
    exact isCreated_of_isFilePacket (hgen.packet j pkt hpkt).2
  · exact h.seqnum.trans (Nat.zero_add _).symm

/-- **Chunking is faithful.**  For every file and every run, whatever is read: 50 packets are made
before the loop, every call of `clear_and_fill_buffer` makes one for each free slot at the front,
and packet `i` of them all, in the order they are made, is the one for position `i`. -/
theorem createsChunks_of_run (crc32 : List UInt8 → UInt32) (file : List UInt8) (buffer : Memory)
    (freshAck : Pkt) (clockAck : UInt32) (fill : FillInputs) (s₀ : Sender)
    (hinit : Sender.init crc32 file buffer freshAck clockAck fill = some s₀)
    (es : List SenderPoll) (t : Sender × List Pkt)
    (hrun : Run (createStep crc32) (fun _ _ _ => True) (s₀, inserted tableSize s₀) es t) :
    (inserted tableSize s₀).length = tableSize ∧
      (∀ i (hi : i < t.2.length), IsCreated crc32 file i t.2[i]) ∧
      ∀ fill win d n m, scanWhile Option.isNone d.listPkt tableSize 0 = some n →
        clearAndFillBuffer crc32 fill win d = some m → MakesPackets n d m := by
  obtain ⟨hgen, hstart⟩ := starts_of_init hinit
  have hfirst := recorded_of_starts hgen hstart
  have hinv : Genuine crc32 file t.1 ∧ Recorded crc32 file t := by
    refine hrun.invariant (I := fun _ t => Genuine crc32 file t.1 ∧ Recorded crc32 file t)
      ⟨hgen, hfirst⟩ ?_
    rintro es ⟨s, made⟩ e t' ⟨hgen, hrec⟩ - hstep
    obtain ⟨s', hs', rfl⟩ := Option.map_eq_some_iff.mp hstep
    exact ⟨hgen.step hs', hrec.step hgen hs'⟩
  exact ⟨hfirst.length.trans hstart.seqnum, hinv.2.created,
    fun _ _ _ _ _ hn hm => makesPackets_clearAndFillBuffer hn hm⟩

/-- Three ACKs, the last of which finds two free slots: 53 packets of a file of three bytes. -/
theorem createsChunks_threeBytes :
    ∃ t : Sender × List Pkt, t.2.length = 53 ∧
      ∀ i (hi : i < t.2.length), IsCreated zlibCrc32 [1, 2, 3] i t.2[i] := by
  obtain ⟨t, hrun, hlen⟩ := exists_run_of_follow (createStep zlibCrc32) (fun _ _ _ => True)
    (startSender [1, 2, 3], inserted tableSize (startSender [1, 2, 3]))
    [writePoll, ackPoll 1 .pollout, ackPoll 3 .pollout, ackPoll 2 .pollout] (fun t => t.2.length)
    (show _ = some 53 by decide +kernel)
  exact ⟨t, hlen, (createsChunks_of_run zlibCrc32 [1, 2, 3] (fun _ => 0) blankPkt 0 blankFill
    (startSender [1, 2, 3]) (init_startSender [1, 2, 3]) _ t hrun).2.1⟩

end TrtpNetwork
