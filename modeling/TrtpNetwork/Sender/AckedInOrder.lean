import TrtpNetwork.Sender.Genuine

/-!
# A sender whose packets are acknowledged in order

After `k` ACKs with the numbers 1, 2, 3, … modulo 256, each with the full window of the receiver,
the table holds the packets `k, …, k + 49`, and `base` and `lastAck` have the number `k` modulo 256
(`AckedInOrder`).  Every lookup of one of these packets by its number succeeds, and every lookup
past them returns -1, the numbers repeating only after 256.

`AckedInOrder.handleAck` is the step from `k` to `k + 1`, and `AckedInOrder.sendLoop` a pass of the
loop over `nextseqnum` as far as the table reaches.
-/

namespace TrtpNetwork

variable (crc32 : List UInt8 → UInt32) (file : List UInt8)

/-- The state of a sender that processed the ACKs for packets `0, …, k - 1` in order. -/
structure AckedInOrder (k : ℕ) (s : Sender) : Prop extends Genuine crc32 file s where
  table : ∀ i < tableSize, s.listPkt i = some (k + i)
  allocated : ∀ i < tableSize, s.packets (k + i) ≠ none
  seqnum : s.seqnum = k + tableSize
  base : s.base = k % 256
  lastAck : s.lastAck.seqnum.toNat = k % 256
  lastAckDel : pktDel s.lastAck = some ()
  window : s.window = if k = 0 then 1 else 4
  nack : s.nack = -1

variable {crc32 file} {k : ℕ} {s : Sender}

theorem AckedInOrder.of_starts (hgen : Genuine crc32 file s) (h : Starts s) :
    AckedInOrder crc32 file 0 s where
  toGenuine := hgen
  table := by simpa using h.listPkt
  allocated := by simpa using h.allocated
  seqnum := by rw [h.seqnum, Nat.zero_add]
  base := h.base
  lastAck := h.lastAck
  lastAckDel := by rw [pktDel, h.lastAckLength, if_neg (by simp)]
  window := h.window
  nack := h.nack

/-! ## Lookups -/

/-- The packet in a slot. -/
theorem AckedInOrder.slot (h : AckedInOrder crc32 file k s) {i : ℕ} (hi : i < tableSize) :
    ∃ pkt, s.packets (k + i) = some pkt ∧ pkt.seqnum.toNat = (k + i) % 256 ∧
      pkt.content = some (chunk file (k + i)) := by
  obtain ⟨pkt, hpkt⟩ := Option.ne_none_iff_exists'.mp (h.allocated i hi)
  exact ⟨pkt, hpkt, h.seqnum_eq hpkt, (h.packet _ _ hpkt).2.1.2.2⟩

theorem AckedInOrder.lacksSeqnum (h : AckedInOrder crc32 file k s) {i seq : ℕ}
    (hi : i < tableSize) (hne : (k + i) % 256 ≠ seq) : LacksSeqnum s seq i := by
  intro p hp
  obtain ⟨pkt, hpkt, hseq, -⟩ := h.slot hi
  rw [h.table i hi] at hp
  obtain rfl := Option.some.inj hp
  exact ⟨pkt, hpkt, by rw [hseq]; exact hne⟩

/-- A packet of the table is found in its slot. -/
theorem AckedInOrder.findBuffer_eq (h : AckedInOrder crc32 file k s) {i win seq : ℕ}
    (hi : i < win) (hwin : win ≤ tableSize) (hseq : seq = (k + i) % 256) :
    findBuffer s seq win = some (some i) := by
  unfold tableSize at hwin
  obtain ⟨pkt, hpkt, hnum, -⟩ := h.slot (show i < tableSize by unfold tableSize; omega)
  refine findBuffer_eq_some_iff.mpr ⟨hi, ?_, fun j hj => ?_⟩
  · exact ⟨k + i, pkt, h.table i (by unfold tableSize; omega), hpkt, by rw [hnum, hseq]⟩
  · exact h.lacksSeqnum (by unfold tableSize; omega) (by omega)

/-- A packet past the table is not. -/
theorem AckedInOrder.findBuffer_absent (h : AckedInOrder crc32 file k s) {p seq : ℕ}
    (hlo : k + tableSize ≤ p) (hhi : p < k + 256) (hseq : seq = p % 256) :
    findBuffer s seq tableSize = some none := by
  unfold tableSize at *
  refine findBuffer_eq_neg_one_iff.mpr fun j hj => ?_
  exact h.lacksSeqnum hj (by omega)

/-! ## The next ACK -/

/-- The ACK for the front of the table frees slot 0, which every window covers. -/
theorem AckedInOrder.deleteAcked_eq (h : AckedInOrder crc32 file k s) {num : ℕ}
    (hnum : num = (k + 1) % 256) (b : ℕ) :
    deleteAcked { s with base := b } num = some { s with
      base := b
      packets := Function.update s.packets k none
      listPkt := Function.update s.listPkt 0 none } := by
  obtain ⟨pkt, hpkt, -, hcontent⟩ := h.slot (show 0 < tableSize by decide)
  have hwindow : 0 < s.window ∧ s.window ≤ tableSize := by
    rw [h.window]
    split <;> decide
  have hplace : ackedSeqnum num = (k + 0) % 256 := by
    unfold ackedSeqnum
    split <;> omega
  have hfound := h.findBuffer_eq hwindow.1 hwindow.2 hplace
  exact deleteAcked_of_found hwindow.2 (s := { s with base := b }) hfound
    (h.table 0 (by decide)) hpkt (pktDel_of_content hcontent)

/-- Behind it the refill finds one free slot. -/
theorem AckedInOrder.scan_eq (h : AckedInOrder crc32 file k s) :
    scanWhile Option.isNone (Function.update s.listPkt 0 none) tableSize 0 = some 1 := by
  refine scanWhile_zero_eq_some_iff.mpr ⟨by decide, ?_, fun j hj => ?_⟩
  · rw [Function.update_of_ne (by decide), h.table 1 (by decide)]
    rfl
  · obtain rfl : j = 0 := by omega
    rw [Function.update_self]
    rfl

/-- The window after the refill. -/
theorem AckedInOrder.refilled_eq (h : AckedInOrder crc32 file k s) {i : ℕ} (hi : i < tableSize) :
    refilled (Function.update s.listPkt 0 none) s.seqnum 1 i = some (k + 1 + i) := by
  rw [refilled_of_le_one (Nat.le_refl 1) hi]
  split
  · rw [Function.update_of_ne (by omega), h.table _ (by omega)]
    congr 1
    omega
  · rw [h.seqnum]
    congr 1
    omega

/-- **The ACK for the packet at the front of the table.** -/
theorem AckedInOrder.handleAck (h : AckedInOrder crc32 file k s) (fill : FillInputs) {ack : Pkt}
    (hnum : ack.seqnum.toNat = (k + 1) % 256) (hwin : ack.window.val = 4)
    (hdel : pktDel ack = some ()) :
    ∃ s', handleAck crc32 fill s ack = some s' ∧ AckedInOrder crc32 file (k + 1) s' ∧
      s'.bufferUpdate = true ∧ s'.nextseqnum = s.nextseqnum ∧ s'.written = s.written ∧
      s'.status = s.status := by
  have hbase : ackedBase s ack.seqnum.toNat = (k + 1) % 256 := by
    unfold ackedBase
    rw [h.lastAck, hnum, if_pos (by omega)]
  have hd := h.deleteAcked_eq hnum (ackedBase s ack.seqnum.toNat)
  have hm := clearAndFillBuffer_eq crc32 fill ack.window.val (n := 1) (s := { s with
      base := ackedBase s ack.seqnum.toNat
      packets := Function.update s.packets k none
      listPkt := Function.update s.listPkt 0 none }) h.scan_eq
  have hs' := handleAck_eq crc32 hd hm h.lastAckDel
  refine ⟨_, hs', ?_, ?_, rfl, rfl, rfl⟩
  · refine ⟨h.toGenuine.handleAck hs', fun i hi => h.refilled_eq hi, fun i hi => ?_, ?_, ?_, hnum,
      hdel, ?_, h.nack⟩
    · show overwrite (Function.update s.packets k none) s.seqnum 1 _ (k + 1 + i) ≠ none
      by_cases hlast : k + 1 + i < s.seqnum
      · rw [overwrite_of_lt _ _ _ hlast, Function.update_of_ne (by omega),
          show k + 1 + i = k + (1 + i) by omega]
        have := h.seqnum
        exact h.allocated _ (by omega)
      · have := h.seqnum
        rw [overwrite_of_mem _ _ (by omega) (by omega)]
        simp
    · show s.seqnum + 1 = k + 1 + tableSize
      rw [h.seqnum]
      omega
    · exact hbase
    · show (if ack.window.val > s.window then ack.window.val else s.window) = _
      rw [hwin, h.window]
      split <;> split <;> simp_all
  · simp

/-! ## Sending -/

/-- What sending the packets `n, …, n + m - 1` by the loop over `nextseqnum` changes. -/
structure Sends (s s' : Sender) (n m : ℕ) : Prop extends OutputFrame s s' where
  nextseqnum : s'.nextseqnum = s.nextseqnum + m
  written : ∃ l, s'.written = s.written ++ l ∧ l.map Transmission.position = List.range' n m ∧
    ∀ w ∈ l, w.cause = .sendLoop ∧ w.base = s.base ∧ w.window = s.window
  bufferUpdate : s'.bufferUpdate = if m = 0 then s.bufferUpdate else false
  status : s'.status = s.status

theorem Sends.refl (s : Sender) (n : ℕ) : Sends s s n 0 where
  toOutputFrame := OutputFrame.refl s
  nextseqnum := rfl
  written := ⟨[], by simp, rfl, by simp⟩
  bufferUpdate := rfl
  status := rfl

/-- A single packet first, then the others. -/
theorem Sends.cons {s m' s' : Sender} {n m : ℕ} (h : Sends s m' n 1) (h' : Sends m' s' (n + 1) m) :
    Sends s s' n (m + 1) where
  toOutputFrame := h.toOutputFrame.trans h'.toOutputFrame
  nextseqnum := by rw [h'.nextseqnum, h.nextseqnum]; omega
  written := by
    obtain ⟨l, hl, hpos, hall⟩ := h.written
    obtain ⟨l', hl', hpos', hall'⟩ := h'.written
    refine ⟨l ++ l', by rw [hl', hl, List.append_assoc], ?_, fun w hw => ?_⟩
    · rw [List.map_append, hpos, hpos']
      rfl
    · rcases List.mem_append.mp hw with hw | hw
      · exact hall w hw
      · rw [← h.base, ← h.window]
        exact hall' w hw
  bufferUpdate := by
    rw [h'.bufferUpdate, h.bufferUpdate]
    simp
  status := h'.status.trans h.status

/-- Sending one packet of the table. -/
theorem AckedInOrder.sendNext (h : AckedInOrder crc32 file k s) (e : SenderPoll) {n : ℕ}
    (hlo : k ≤ n) (hhi : n < k + tableSize) (hnext : s.nextseqnum % 256 = n % 256) :
    ∃ s', sendNext crc32 e s = some s' ∧ AckedInOrder crc32 file k s' ∧ Sends s s' n 1 := by
  have hi : n - k < tableSize := by omega
  obtain ⟨pkt, hpkt, -, hcontent⟩ := h.slot hi
  have hslot := h.table (n - k) hi
  rw [Nat.add_sub_cancel' hlo] at hpkt hcontent hslot
  have hfound : findBuffer s (s.nextseqnum % 256) tableSize = some (some (n - k)) :=
    h.findBuffer_eq hi (Nat.le_refl _) (by rw [hnext, Nat.add_sub_cancel' hlo])
  have hs' := sendNext_eq crc32 (e := e) hfound hslot hpkt hcontent
  refine ⟨_, hs', ⟨h.toGenuine.sendNext hs', h.table, fun i hi => ?_, h.seqnum, h.base, h.lastAck,
    h.lastAckDel, h.window, h.nack⟩, ⟨⟨rfl, rfl, rfl, rfl, rfl, rfl⟩, rfl, ⟨_, rfl, rfl, ?_⟩, rfl,
    rfl⟩⟩
  · show Function.update s.packets n _ (k + i) ≠ none
    by_cases hin : k + i = n
    · rw [hin, Function.update_self]
      simp
    · rw [Function.update_of_ne hin]
      exact h.allocated i hi
  · intro w hw
    obtain rfl := List.mem_singleton.mp hw
    exact ⟨rfl, rfl, rfl⟩

/-- **A pass of the loop over `nextseqnum`**, as far as the window and the table allow. -/
theorem AckedInOrder.sendLoop (h : AckedInOrder crc32 file k s) (e : SenderPoll) (n m fuel : ℕ)
    (hstatus : s.status ≠ .absentLookup) (hlo : k ≤ n) (hhi : n + m ≤ k + tableSize)
    (hnext : s.nextseqnum % 256 = n % 256) (hfuel : m ≤ fuel)
    (hbound : s.nextseqnum + m ≤ s.base + s.window) (hmay : 0 < m → MaySend s) :
    ∃ s', sendLoop crc32 e fuel s = sendLoop crc32 e (fuel - m) s' ∧
      AckedInOrder crc32 file k s' ∧ Sends s s' n m := by
  induction m generalizing s n fuel with
  | zero => exact ⟨s, rfl, h, Sends.refl s n⟩
  | succ m ih =>
    obtain ⟨fuel, rfl⟩ : ∃ f, fuel = f + 1 := ⟨fuel - 1, by omega⟩
    obtain ⟨a, ha, haord, hsends⟩ := h.sendNext e hlo (by omega) hnext
    have hastatus : a.status ≠ .absentLookup := by
      rw [hsends.status]
      exact hstatus
    have hanext := hsends.nextseqnum
    obtain ⟨s', hs', hord, hrest⟩ := ih haord (n + 1) fuel hastatus (by omega)
      (by omega) (by omega) (by omega) (by rw [hsends.base, hsends.window]; omega) fun hm => by
        refine ⟨by rw [hsends.base, hsends.window]; omega, Or.inl (by omega)⟩
    refine ⟨s', ?_, hord, hsends.cons hrest⟩
    rw [TrtpNetwork.sendLoop, if_pos (hmay (by omega)), ha]
    simp only [Option.bind_eq_bind, Option.bind_some, if_neg hastatus, hs', Nat.add_sub_add_right]

end TrtpNetwork
