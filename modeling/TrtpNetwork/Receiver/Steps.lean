import TrtpNetwork.Library.Runs
import TrtpNetwork.Packet.PutOnPkt
import TrtpNetwork.Receiver.Loop

/-!
# The steps of the receiver in closed form

One lemma per function of `Receiver.Loop`, giving the state it returns.  Nothing is assumed here
about where the packets in the table come from: the lemmas hold in every state in which the step is
defined, and the results about whole runs are drawn from them.

* `clearAndFillBufferR_eq`: the flush writes the leading run, counts it into `free_place` and
  `base_r`, and shifts the rest down.  `flushedTable_apply` shows what the shift leaves behind.
* `placePacket_of_free`, `placePacket_of_taken`, `placePacket_of_negative`: a packet is stored, or
  dropped, or addressed to no slot at all.
* `closeTransfer_eq`, `closeTransfer_cases`: the end of the transfer.
* `Receives`, `receive_cases`: what the input half leaves alone, and what it stores.
* `sendReply_eq`, `sendAck_eq`: what a reply puts on the socket.
-/

namespace TrtpNetwork

/-! ## The flush -/

theorem printAndRemove_eq {r : Receiver} {i : ℕ} {pkt : Pkt} {bytes : List UInt8}
    (hslot : r.listPkt i = some pkt) (hbytes : pkt.content = some bytes) :
    printAndRemove r i = some { r with
      stdout := r.stdout ++ [bytes]
      freePlace := r.freePlace + 1
      listPkt := Function.update r.listPkt i none } := by
  simp [printAndRemove, printSlot, hslot, hbytes, pktDel_of_content hbytes]

/-- The first loop of the flush: the slots below `n` are printed in order and emptied. -/
theorem foldlM_printAndRemove {r : Receiver} {bytes : ℕ → List UInt8} (n : ℕ)
    (h : ∀ i < n, ∃ pkt, r.listPkt i = some pkt ∧ pkt.content = some (bytes i)) :
    (List.range n).foldlM printAndRemove r = some { r with
      stdout := r.stdout ++ (List.range n).map bytes
      freePlace := r.freePlace + n
      listPkt := fun k => if k < n then none else r.listPkt k } := by
  induction n with
  | zero => simp
  | succ n ih =>
    obtain ⟨pkt, hslot, hbytes⟩ := h n (by omega)
    have htable : Function.update (fun k => if k < n then none else r.listPkt k) n none =
        fun k => if k < n + 1 then none else r.listPkt k := by
      funext k
      by_cases hk : k = n
      · subst hk
        simp
      · rw [Function.update_of_ne hk]
        split <;> split <;> first | rfl | omega
    have hlast := printAndRemove_eq
      (show { r with
        stdout := r.stdout ++ (List.range n).map bytes
        freePlace := r.freePlace + n
        listPkt := fun k => if k < n then none else r.listPkt k }.listPkt n = some pkt by
        simpa using hslot) hbytes
    rw [List.range_succ, foldlM_snoc, ih fun i hi => h i (by omega), Option.bind_some, hlast,
      htable]
    simp [Int.add_assoc]

/-- The table after a flush that wrote the first `s` slots. -/
def flushedTable (listPkt : Slots Pkt) (s : ℕ) : Slots Pkt :=
  shiftDown (fun k => if k < s then none else listPkt k) s (realWindow - s)

/-- **What a flush leaves in the table.**  The slots that received something from further on hold
it; behind them the freed slots are empty, and the slots that were neither freed nor overwritten
still hold what they held. -/
theorem flushedTable_apply (listPkt : Slots Pkt) (s k : ℕ) :
    flushedTable listPkt s k =
      if k < realWindow - s then listPkt (k + s) else if k < s then none else listPkt k := by
  rw [flushedTable, shiftDown_apply]
  split
  · rw [if_neg (by omega)]
  · rfl

/-- When nothing sits in the last slot behind a hole, the flush is a clean shift. -/
theorem flushedTable_eq_shift {listPkt : Slots Pkt} {s : ℕ} (hs : s ≤ realWindow)
    (hempty : ∀ k, realWindow ≤ k → listPkt k = none)
    (htail : ∀ k, realWindow - s ≤ k → s ≤ k → k < realWindow → listPkt k = none) (k : ℕ) :
    flushedTable listPkt s k = listPkt (k + s) := by
  rw [flushedTable_apply]
  split
  · rfl
  · rw [hempty (k + s) (by omega)]
    split
    · rfl
    · by_cases hk : k < realWindow
      · exact htail k (by omega) (by omega) hk
      · exact hempty k (by omega)

/-- **`clear_and_fill_buffer_r`.** -/
theorem clearAndFillBufferR_eq {r : Receiver} {s : ℕ} {bytes : ℕ → List UInt8}
    (hs : firstEmptyPlace r.listPkt = some s)
    (hbytes : ∀ i < s, ∃ pkt, r.listPkt i = some pkt ∧ pkt.content = some (bytes i)) :
    clearAndFillBufferR r = some { r with
      baseR := (r.baseR + s).tmod realWindow
      stdout := r.stdout ++ (List.range s).map bytes
      freePlace := r.freePlace + s
      listPkt := flushedTable r.listPkt s } := by
  have hfold := @foldlM_printAndRemove { r with baseR := (r.baseR + s).tmod realWindow } bytes s
    hbytes
  unfold clearAndFillBufferR
  simp only [hs, Option.bind_eq_bind, Option.bind_some, hfold]
  rfl

theorem printSlot_cases {r r' : Receiver} {i : ℕ} (h : printSlot r i = some r') :
    ∃ pkt bytes, r.listPkt i = some pkt ∧ pkt.content = some bytes ∧
      r' = { r with stdout := r.stdout ++ [bytes] } := by
  obtain ⟨pkt, hslot, h⟩ := Option.bind_eq_some_iff.mp h
  obtain ⟨bytes, hbytes, h⟩ := Option.bind_eq_some_iff.mp h
  obtain ⟨-, -, h⟩ := Option.bind_eq_some_iff.mp h
  exact ⟨pkt, bytes, hslot, hbytes, (Option.some.inj h).symm⟩

/-- The first loop of the flush prints packets whose payload can be read. -/
theorem content_of_foldlM_printAndRemove {r r' : Receiver} {n : ℕ}
    (h : (List.range n).foldlM printAndRemove r = some r') :
    ∃ bytes : ℕ → List UInt8, ∀ i < n, ∃ pkt, r.listPkt i = some pkt ∧
      pkt.content = some (bytes i) := by
  induction n generalizing r' with
  | zero => exact ⟨fun _ => [], fun i hi => absurd hi (Nat.not_lt_zero i)⟩
  | succ n ih =>
    rw [List.range_succ, foldlM_snoc] at h
    obtain ⟨m, hm, hlast⟩ := Option.bind_eq_some_iff.mp h
    obtain ⟨bytes, hbytes⟩ := ih hm
    rw [foldlM_printAndRemove n hbytes] at hm
    obtain rfl := Option.some.inj hm
    obtain ⟨q, hq, -⟩ := Option.bind_eq_some_iff.mp hlast
    obtain ⟨pkt, last, hkept, hcontent, -⟩ := printSlot_cases hq
    have hslot : (if n < n then none else r.listPkt n) = some pkt := hkept
    rw [if_neg (Nat.lt_irrefl n)] at hslot
    refine ⟨Function.update bytes n last, fun i hi => ?_⟩
    by_cases hin : i = n
    · subst hin
      exact ⟨pkt, hslot, by rw [Function.update_self]; exact hcontent⟩
    · rw [Function.update_of_ne hin]
      exact hbytes i (by omega)

/-- The flush has an outcome when the scan stays inside the table and the payloads can be read, and
no other. -/
theorem clearAndFillBufferR_cases {r r' : Receiver} (h : clearAndFillBufferR r = some r') :
    ∃ s bytes, firstEmptyPlace r.listPkt = some s ∧
      (∀ i < s, ∃ pkt, r.listPkt i = some pkt ∧ pkt.content = some (bytes i)) ∧
      r' = { r with
        baseR := (r.baseR + s).tmod realWindow
        stdout := r.stdout ++ (List.range s).map bytes
        freePlace := r.freePlace + s
        listPkt := flushedTable r.listPkt s } := by
  have hrun := h
  obtain ⟨s, hs, h⟩ := Option.bind_eq_some_iff.mp h
  obtain ⟨s', hs', h⟩ := Option.bind_eq_some_iff.mp h
  obtain rfl := Option.some.inj (hs.symm.trans hs')
  obtain ⟨m, hm, -⟩ := Option.bind_eq_some_iff.mp h
  obtain ⟨bytes, hbytes⟩ := content_of_foldlM_printAndRemove hm
  rw [clearAndFillBufferR_eq hs hbytes] at hrun
  exact ⟨s, bytes, hs, hbytes, (Option.some.inj hrun).symm⟩

/-! ## Storing a packet -/

/-- Storing a packet whose slot is free. -/
theorem placePacket_of_free {r : Receiver} {pkt : Pkt} {k : ℕ}
    (hk : slotIndex pkt.seqnum.toNat (if pkt.seqnum.toNat = 0 then 0 else r.baseR) = some k)
    (hfree : r.listPkt k = none) :
    placePacket r pkt = some { r with
      baseR := if pkt.seqnum.toNat = 0 then 0 else r.baseR
      listPkt := Function.update r.listPkt k (some pkt)
      freePlace := r.freePlace - 1
      partialAck := ((pkt.seqnum.toNat + 1) % 256 : ℕ) } := by
  unfold placePacket
  by_cases h0 : pkt.seqnum.toNat = 0
  · simp only [h0, if_true] at hk ⊢
    simp [hk, hfree]
  · simp only [h0, if_false] at hk ⊢
    simp [hk, hfree]

/-- Dropping a packet whose slot is taken. -/
theorem placePacket_of_taken {r : Receiver} {pkt : Pkt} {k : ℕ}
    (hk : slotIndex pkt.seqnum.toNat (if pkt.seqnum.toNat = 0 then 0 else r.baseR) = some k)
    (htaken : r.listPkt k ≠ none) :
    placePacket r pkt = some { r with
      baseR := if pkt.seqnum.toNat = 0 then 0 else r.baseR
      packetIgnored := r.packetIgnored + 1
      packetDuplicated := r.packetDuplicated + 1 } := by
  have hdel : pkt.length = 0 → pktDel pkt = some () := by
    intro h
    rw [pktDel, h, if_neg (by simp)]
  unfold placePacket
  by_cases h0 : pkt.seqnum.toNat = 0 <;> by_cases hl : pkt.length = 0 <;>
    simp only [h0, if_true, if_false] at hk ⊢ <;> simp [hk, htaken, hl, hdel]

/-- A negative index into the table is an iteration without outcome. -/
theorem placePacket_of_negative {r : Receiver} {pkt : Pkt}
    (hk : slotIndex pkt.seqnum.toNat (if pkt.seqnum.toNat = 0 then 0 else r.baseR) = none) :
    placePacket r pkt = none := by
  unfold placePacket
  by_cases h0 : pkt.seqnum.toNat = 0
  · simp only [h0, if_true] at hk ⊢
    simp [hk]
  · simp only [h0, if_false] at hk ⊢
    simp [hk]

theorem slotIndex_of_nonneg {seqnum : ℕ} {baseR : ℤ}
    (h : 0 ≤ ((seqnum : ℤ) - baseR).tmod realWindow) :
    slotIndex seqnum baseR = some (((seqnum : ℤ) - baseR).tmod realWindow).toNat :=
  if_pos h

/-- An index that is not negative is one of the window. -/
theorem slotIndex_eq_some {seqnum k : ℕ} {baseR : ℤ} (h : slotIndex seqnum baseR = some k) :
    k < realWindow ∧ ((seqnum : ℤ) - baseR).tmod realWindow = k := by
  unfold slotIndex at h
  simp only at h
  split at h
  · obtain rfl := Option.some.inj h
    have hlt := Int.tmod_lt_of_pos ((seqnum : ℤ) - baseR) (show (0 : ℤ) < realWindow by decide)
    omega
  · cases h

/-- What is done with a packet: it is stored in its slot, or dropped. -/
theorem placePacket_cases {r r' : Receiver} {pkt : Pkt} (h : placePacket r pkt = some r') :
    ∃ k, slotIndex pkt.seqnum.toNat (if pkt.seqnum.toNat = 0 then 0 else r.baseR) = some k ∧
      (r.listPkt k = none ∧ r' = { r with
          baseR := if pkt.seqnum.toNat = 0 then 0 else r.baseR
          listPkt := Function.update r.listPkt k (some pkt)
          freePlace := r.freePlace - 1
          partialAck := ((pkt.seqnum.toNat + 1) % 256 : ℕ) } ∨
        r.listPkt k ≠ none ∧ r' = { r with
          baseR := if pkt.seqnum.toNat = 0 then 0 else r.baseR
          packetIgnored := r.packetIgnored + 1
          packetDuplicated := r.packetDuplicated + 1 }) := by
  cases hk : slotIndex pkt.seqnum.toNat (if pkt.seqnum.toNat = 0 then 0 else r.baseR) with
  | none =>
    rw [placePacket_of_negative hk] at h
    cases h
  | some k =>
    refine ⟨k, rfl, ?_⟩
    by_cases hfree : r.listPkt k = none
    · rw [placePacket_of_free hk hfree] at h
      exact Or.inl ⟨hfree, (Option.some.inj h).symm⟩
    · rw [placePacket_of_taken hk hfree] at h
      exact Or.inr ⟨hfree, (Option.some.inj h).symm⟩

/-! ## The end of the transfer -/

/-- The number of leading slots that the end of the transfer writes out. -/
def closingRun (listPkt : Slots Pkt) : Option ℕ :=
  scanWhile (fun p => p.any fun pkt => pkt.length > 0) listPkt receiveCells 0

theorem closingRun_eq_some_iff {t : Slots Pkt} {n : ℕ} :
    closingRun t = some n ↔ n < receiveCells ∧ (∀ pkt, t n = some pkt → pkt.length = 0) ∧
      ∀ k < n, ∃ pkt, t k = some pkt ∧ pkt.length ≠ 0 := by
  have hpos : ∀ l : UInt16, 0 < l ↔ l ≠ 0 := fun l => UInt16.pos_iff_ne_zero
  rw [closingRun, scanWhile_zero_eq_some_iff]
  simp only [Option.any_eq_false, Option.any_eq_true, gt_iff_lt, decide_eq_true_eq,
    decide_eq_false_iff_not, hpos, not_not, ne_eq]

/-- The loop that empties the front of the table prints what it finds and changes nothing else. -/
theorem foldlM_printSlot {r : Receiver} {bytes : ℕ → List UInt8} (n : ℕ)
    (h : ∀ i < n, ∃ pkt, r.listPkt i = some pkt ∧ pkt.content = some (bytes i)) :
    (List.range n).foldlM printSlot r =
      some { r with stdout := r.stdout ++ (List.range n).map bytes } := by
  induction n with
  | zero => simp
  | succ n ih =>
    obtain ⟨pkt, hslot, hbytes⟩ := h n (by omega)
    rw [List.range_succ, foldlM_snoc, ih fun i hi => h i (by omega), Option.bind_some]
    simp [printSlot, hslot, hbytes, pktDel_of_content hbytes]

/-- **The end of the transfer** writes out the leading slots that hold data, leaves the loop and
sends nothing. -/
theorem closeTransfer_eq {r : Receiver} {pkt : Pkt} {n : ℕ} {bytes : ℕ → List UInt8}
    (hn : closingRun r.listPkt = some n)
    (hbytes : ∀ i < n, ∃ pkt, r.listPkt i = some pkt ∧ pkt.content = some (bytes i))
    (hdel : pktDel pkt = some ()) :
    closeTransfer r pkt = some { r with
      stdout := r.stdout ++ (List.range n).map bytes
      status := .endOfData } := by
  unfold closingRun at hn
  simp [closeTransfer, hn, foldlM_printSlot n hbytes, hdel]

theorem foldlM_printSlot_cases {r r' : Receiver} {is : List ℕ}
    (h : is.foldlM printSlot r = some r') : ∃ out, r' = { r with stdout := out } := by
  induction is using List.reverseRecOn generalizing r' with
  | nil =>
    obtain rfl := Option.some.inj h
    exact ⟨r.stdout, rfl⟩
  | append_singleton is i ih =>
    rw [foldlM_snoc] at h
    obtain ⟨m, hm, hlast⟩ := Option.bind_eq_some_iff.mp h
    obtain ⟨out, rfl⟩ := ih hm
    obtain ⟨-, -, -, -, rfl⟩ := printSlot_cases hlast
    exact ⟨_, rfl⟩

/-- The end of the transfer touches the output and the status. -/
theorem closeTransfer_cases {r r' : Receiver} {pkt : Pkt} (h : closeTransfer r pkt = some r') :
    ∃ n out, closingRun r.listPkt = some n ∧ pktDel pkt = some () ∧
      r' = { r with stdout := out, status := .endOfData } := by
  obtain ⟨n, hn, h⟩ := Option.bind_eq_some_iff.mp h
  obtain ⟨m, hm, h⟩ := Option.bind_eq_some_iff.mp h
  obtain ⟨⟨⟩, hdel, h⟩ := Option.bind_eq_some_iff.mp h
  obtain ⟨out, rfl⟩ := foldlM_printSlot_cases hm
  exact ⟨n, out, hn, hdel, (Option.some.inj h).symm⟩

/-! ## The input half -/

variable (crc32 : List UInt8 → UInt32)

/-- What the input half never changes, and what it may do to `base_r`. -/
structure Receives (r m : Receiver) : Prop where
  base : m.baseR = r.baseR ∨ m.baseR = 0
  written : m.written = r.written

/-- The table and its count are left as they were. -/
structure LeavesTable (r m : Receiver) : Prop extends Receives r m where
  table : m.listPkt = r.listPkt
  freePlace : m.freePlace = r.freePlace

/-- `last_time_pkt` may move, and nothing else with it. -/
theorem exists_stamped (r : Receiver) (timestamp : UInt32) : ∃ t,
    (if timestamp > r.lastTimePkt then { r with lastTimePkt := timestamp } else r) =
      { r with lastTimePkt := t } := by
  by_cases ht : timestamp > r.lastTimePkt
  · exact ⟨_, if_pos ht⟩
  · exact ⟨_, if_neg ht⟩

/-- A packet is put into a free slot of the window. -/
structure FillsSlot (r m : Receiver) (k : ℕ) (pkt : Pkt) : Prop extends Receives r m where
  inWindow : k < realWindow
  free : r.listPkt k = none
  table : m.listPkt = Function.update r.listPkt k (some pkt)
  freePlace : m.freePlace = r.freePlace - 1

theorem handlePacket_cases {r m : Receiver} {decoded : PktStatusCode × Pkt}
    (h : handlePacket r decoded = some m) :
    LeavesTable r m ∨ ∃ k, FillsSlot r m k decoded.2 := by
  rw [handlePacket] at h
  split at h
  · obtain rfl := Option.some.inj h
    exact Or.inl ⟨⟨Or.inl rfl, rfl⟩, rfl, rfl⟩
  · rw [goodPacket] at h
    -- `last_time_pkt` may have moved, whatever is done with the packet
    obtain ⟨t, ht⟩ := exists_stamped r decoded.2.timestamp
    simp only [ht] at h
    split at h
    · obtain ⟨-, out, -, -, rfl⟩ := closeTransfer_cases h
      exact Or.inl ⟨⟨Or.inl rfl, rfl⟩, rfl, rfl⟩
    · have hbase : (if decoded.2.seqnum.toNat = 0 then (0 : ℤ) else r.baseR) = r.baseR ∨
          (if decoded.2.seqnum.toNat = 0 then (0 : ℤ) else r.baseR) = 0 := by
        split
        · exact Or.inr rfl
        · exact Or.inl rfl
      obtain ⟨k, hk, ⟨hfree, rfl⟩ | ⟨-, rfl⟩⟩ := placePacket_cases h
      · exact Or.inr ⟨k, ⟨hbase, rfl⟩, (slotIndex_eq_some hk).1, hfree, rfl, rfl⟩
      · exact Or.inl ⟨⟨hbase, rfl⟩, rfl, rfl⟩

/-- **The input half** leaves the table alone, or puts what it read into a free slot. -/
theorem receive_cases {r m : Receiver} {e : ReceiverPoll} (h : receive crc32 r e = some m) :
    LeavesTable r m ∨ ∃ k pkt, FillsSlot r m k pkt := by
  rw [receive] at h
  split at h
  · obtain rfl := Option.some.inj h
    exact Or.inl ⟨⟨Or.inl rfl, rfl⟩, rfl, rfl⟩
  · obtain ⟨⟨hbase, hwritten⟩, htable, hcount⟩ |
        ⟨k, ⟨hbase, hwritten⟩, hk, hfree, htable, hcount⟩ := handlePacket_cases h
    · exact Or.inl ⟨⟨hbase, hwritten⟩, htable, hcount⟩
    · exact Or.inr ⟨k, _, ⟨hbase, hwritten⟩, hk, hfree, htable, hcount⟩
  · obtain rfl := Option.some.inj h
    exact Or.inl ⟨⟨Or.inl rfl, rfl⟩, rfl, rfl⟩

theorem receives_of_receive {r m : Receiver} {e : ReceiverPoll} (h : receive crc32 r e = some m) :
    Receives r m := by
  obtain hleaves | ⟨k, pkt, hfills⟩ := receive_cases crc32 h
  · exact hleaves.toReceives
  · exact hfills.toReceives

/-! ## Replies -/

/-- A reply: the packet, its twelve bytes on the socket, and the same bytes in the buffer. -/
theorem sendReply_eq (r : Receiver) (fresh : Pkt) (seqnum : ℤ) {type : ℤ} {ptype : Ptypes}
    (htype : type = 1 ∧ ptype = .ack ∨ type = 2 ∧ ptype = .nack) :
    sendReply crc32 r fresh seqnum type =
      let pkt := controlPkt fresh ptype seqnum r.freePlace r.lastTimePkt
      some { r with
        buffer := memcpy r.buffer 0 (encoding crc32 pkt [])
        written := r.written ++ [(pkt, encoding crc32 pkt [])] } := by
  have hlen : (encoding crc32 (controlPkt fresh ptype seqnum r.freePlace r.lastTimePkt) []).length
      = 12 := by
    rw [length_encoding, if_pos rfl]
  have hread := bytesAt_memcpy r.buffer 0
    (encoding crc32 (controlPkt fresh ptype seqnum r.freePlace r.lastTimePkt) [])
  rw [hlen] at hread
  unfold sendReply
  simp [putOnPkt_control crc32 fresh r.buffer none seqnum r.freePlace htype, hread]

/-- The ACK a flush of `s` packets sends. -/
def ackPkt (r : Receiver) (fresh : Pkt) (s : ℕ) : Pkt :=
  controlPkt fresh .ack r.partialAck (r.freePlace + s) r.lastTimePkt

/-- **The flush and its ACK.** -/
theorem sendAck_eq {r : Receiver} {s : ℕ} {bytes : ℕ → List UInt8} (hack : r.partialAck ≠ -1)
    (hnack : r.nack = -1) (hs : firstEmptyPlace r.listPkt = some s)
    (hbytes : ∀ i < s, ∃ pkt, r.listPkt i = some pkt ∧ pkt.content = some (bytes i))
    (fresh : Pkt) :
    sendAck crc32 r fresh = some { r with
      baseR := if r.partialAck = 0 then 0 else (r.baseR + s).tmod realWindow
      stdout := r.stdout ++ (List.range s).map bytes
      freePlace := r.freePlace + s
      listPkt := flushedTable r.listPkt s
      buffer := memcpy r.buffer 0 (encoding crc32 (ackPkt r fresh s) [])
      written := r.written ++ [(ackPkt r fresh s, encoding crc32 (ackPkt r fresh s) [])]
      partialAck := -1 } := by
  rw [sendAck, if_pos ⟨hack, hnack, rfl⟩, clearAndFillBufferR_eq hs hbytes]
  simp only [Option.bind_eq_bind, Option.bind_some,
    sendReply_eq crc32 _ fresh r.partialAck (Or.inl ⟨rfl, rfl⟩)]
  by_cases h0 : r.partialAck = 0
  · simp [h0, ackPkt]
  · simp [h0, ackPkt]

/-- Without a pending ACK the output half does nothing, as long as no NACK is pending. -/
theorem sendAck_of_idle {r : Receiver} (hack : r.partialAck = -1) (fresh : Pkt) :
    sendAck crc32 r fresh = some r := by
  rw [sendAck, if_neg]
  exact fun h => h.1 hack

theorem sendNack_of_idle {r : Receiver} (hnack : r.nack = -1) (fresh : Pkt) :
    sendNack crc32 r fresh = some r := by
  rw [sendNack, if_neg]
  exact fun h => h hnack

/-- The NACK for packet `nack`. -/
def nackPkt (r : Receiver) (fresh : Pkt) : Pkt :=
  controlPkt fresh .nack r.nack r.freePlace r.lastTimePkt

theorem sendNack_cases {r r' : Receiver} {fresh : Pkt} (h : sendNack crc32 r fresh = some r') :
    r.nack = -1 ∧ r' = r ∨ r.nack ≠ -1 ∧ r' = { r with
      buffer := memcpy r.buffer 0 (encoding crc32 (nackPkt r fresh) [])
      written := r.written ++ [(nackPkt r fresh, encoding crc32 (nackPkt r fresh) [])]
      nack := -1 } := by
  rw [sendNack] at h
  split at h
  · rw [sendReply_eq crc32 r fresh r.nack (Or.inr ⟨rfl, rfl⟩)] at h
    exact Or.inr ⟨by assumption, (Option.some.inj h).symm⟩
  · exact Or.inl ⟨by omega, (Option.some.inj h).symm⟩

/-- **The flush and its ACK**, from any state. -/
theorem sendAck_cases {r r' : Receiver} {fresh : Pkt} (h : sendAck crc32 r fresh = some r')
    (hnack : r.nack = -1) :
    r.partialAck = -1 ∧ r' = r ∨ r.partialAck ≠ -1 ∧
      ∃ s bytes, firstEmptyPlace r.listPkt = some s ∧
        (∀ i < s, ∃ pkt, r.listPkt i = some pkt ∧ pkt.content = some (bytes i)) ∧
        r' = { r with
          baseR := if r.partialAck = 0 then 0 else (r.baseR + s).tmod realWindow
          stdout := r.stdout ++ (List.range s).map bytes
          freePlace := r.freePlace + s
          listPkt := flushedTable r.listPkt s
          buffer := memcpy r.buffer 0 (encoding crc32 (ackPkt r fresh s) [])
          written := r.written ++ [(ackPkt r fresh s, encoding crc32 (ackPkt r fresh s) [])]
          partialAck := -1 } := by
  by_cases hack : r.partialAck = -1
  · rw [sendAck_of_idle crc32 hack] at h
    exact Or.inl ⟨hack, (Option.some.inj h).symm⟩
  · have hrun := h
    rw [sendAck, if_pos ⟨hack, hnack, rfl⟩] at h
    obtain ⟨m, hm, -⟩ := Option.bind_eq_some_iff.mp h
    obtain ⟨s, bytes, hs, hbytes, -⟩ := clearAndFillBufferR_cases hm
    rw [sendAck_eq crc32 hack hnack hs hbytes] at hrun
    exact Or.inr ⟨hack, s, bytes, hs, hbytes, (Option.some.inj hrun).symm⟩

theorem reply_pollout {r : Receiver} {e : ReceiverPoll} (hnack : r.nack = -1)
    (he : e.writable = .pollout) : reply crc32 r e = sendAck crc32 r e.freshAck := by
  simp [reply, he, sendNack_of_idle crc32 hnack]

/-! ## The halves of an iteration -/

/-- The input half, by what it finds the socket to be. -/
theorem receive_readable_cases {r m : Receiver} {e : ReceiverPoll}
    (h : receive crc32 r e = some m) :
    e.readable = .idle ∧ m = r ∨
      (∃ result, e.readable = .pollin result ∧
        handlePacket { r with buffer := readInto r.buffer result }
          (decodeRead crc32 r.buffer result e.beyond e.freshRcv) = some m) ∨
      e.readable = .other ∧ m = { r with status := .hangup } := by
  rw [receive] at h
  cases he : e.readable with
  | idle =>
    rw [he] at h
    exact Or.inl ⟨rfl, (Option.some.inj h).symm⟩
  | pollin result =>
    rw [he] at h
    exact Or.inr (Or.inl ⟨result, rfl, h⟩)
  | other =>
    rw [he] at h
    exact Or.inr (Or.inr ⟨rfl, (Option.some.inj h).symm⟩)

/-- The output half, by what it finds the socket to be. -/
theorem reply_cases {m r' : Receiver} {e : ReceiverPoll} (h : reply crc32 m e = some r') :
    (e.writable ≠ .pollout ∧ ∃ status, r' = { m with status := status }) ∨
      (e.writable = .pollout ∧ ∃ q, sendNack crc32 m e.freshNack = some q ∧
        sendAck crc32 q e.freshAck = some r') := by
  rw [reply] at h
  cases he : e.writable with
  | idle =>
    rw [he] at h
    exact Or.inl ⟨by decide, m.status, (Option.some.inj h).symm⟩
  | pollout =>
    rw [he] at h
    exact Or.inr ⟨rfl, Option.bind_eq_some_iff.mp h⟩
  | other =>
    rw [he] at h
    exact Or.inl ⟨by decide, .hangup, (Option.some.inj h).symm⟩

/-- **One iteration**: none after the loop was left, and else the input half, followed by the output
half unless the transfer has ended. -/
theorem readWriteLoop_cases {r r' : Receiver} {e : ReceiverPoll}
    (h : readWriteLoop crc32 r e = some r') :
    r.status ≠ .running ∧ r' = r ∨ r.status = .running ∧ ∃ m, receive crc32 r e = some m ∧
      (m.status = .endOfData ∧ r' = m ∨ m.status ≠ .endOfData ∧ reply crc32 m e = some r') := by
  rw [readWriteLoop] at h
  split at h
  · obtain ⟨m, hm, hrest⟩ := Option.bind_eq_some_iff.mp h
    refine Or.inr ⟨by assumption, m, hm, ?_⟩
    split at hrest
    · exact Or.inl ⟨by assumption, (Option.some.inj hrest).symm⟩
    · exact Or.inr ⟨by assumption, hrest⟩
  · exact Or.inl ⟨by assumption, (Option.some.inj h).symm⟩

/-- **The rule for an iteration**: what both halves keep, the iteration keeps. -/
theorem readWriteLoop_rule {P : Receiver → Prop} {e : ReceiverPoll}
    (hreceive : ∀ r m, P r → receive crc32 r e = some m → P m)
    (hreply : ∀ m r', P m → reply crc32 m e = some r' → P r') {r r' : Receiver} (hr : P r)
    (h : readWriteLoop crc32 r e = some r') : P r' := by
  obtain ⟨-, rfl⟩ | ⟨-, m, hm, ⟨-, rfl⟩ | ⟨-, hrep⟩⟩ := readWriteLoop_cases crc32 h
  · exact hr
  · exact hreceive r _ hr hm
  · exact hreply m r' (hreceive r m hr hm) hrep

/-- The iteration that ends the transfer has no output half. -/
theorem readWriteLoop_of_ended {r m : Receiver} {e : ReceiverPoll} (hrunning : r.status = .running)
    (hm : receive crc32 r e = some m) (hend : m.status = .endOfData) :
    readWriteLoop crc32 r e = some m := by
  rw [readWriteLoop, if_pos hrunning, hm]
  simp only [Option.bind_eq_bind, Option.bind_some, if_pos hend]

/-- The others do. -/
theorem readWriteLoop_of_receive {r m : Receiver} {e : ReceiverPoll}
    (hrunning : r.status = .running) (hm : receive crc32 r e = some m)
    (hgoes : m.status ≠ .endOfData) : readWriteLoop crc32 r e = reply crc32 m e := by
  rw [readWriteLoop, if_pos hrunning, hm]
  simp only [Option.bind_eq_bind, Option.bind_some, if_neg hgoes]

/-! ## The status -/

/-- Reading ends the loop at the end of the data, and only there. -/
theorem status_of_receive {r m : Receiver} {e : ReceiverPoll} (hother : e.readable ≠ .other)
    (h : receive crc32 r e = some m) : m.status = r.status ∨ m.status = .endOfData := by
  rcases receive_readable_cases crc32 h with ⟨-, rfl⟩ | ⟨result, -, h⟩ | ⟨he, -⟩
  · exact Or.inl rfl
  · rw [handlePacket] at h
    split at h
    · obtain rfl := Option.some.inj h
      exact Or.inl rfl
    · rw [goodPacket] at h
      dsimp only at h
      split at h
      · obtain ⟨-, out, -, -, rfl⟩ := closeTransfer_cases h
        exact Or.inr rfl
      · obtain ⟨k, -, ⟨-, rfl⟩ | ⟨-, rfl⟩⟩ := placePacket_cases h
        · left
          dsimp only
          split <;> rfl
        · left
          dsimp only
          split <;> rfl
  · exact absurd he hother

theorem status_of_reply {m r' : Receiver} {e : ReceiverPoll} (h : reply crc32 m e = some r') :
    r'.status = if e.writable = .other then .hangup else m.status := by
  rcases reply_cases crc32 h with ⟨hout, -⟩ | ⟨hout, p, hp, hack⟩
  · unfold reply at h
    cases hw : e.writable with
    | pollout => exact absurd hw hout
    | idle =>
      rw [hw] at h
      obtain rfl := Option.some.inj h
      rfl
    | other =>
      rw [hw] at h
      obtain rfl := Option.some.inj h
      rfl
  · rw [hout, if_neg (by decide)]
    have hp' : p.status = m.status ∧ p.nack = -1 := by
      rcases sendNack_cases crc32 hp with ⟨hnack, rfl⟩ | ⟨-, rfl⟩
      · exact ⟨rfl, hnack⟩
      · exact ⟨rfl, rfl⟩
    rcases sendAck_cases crc32 hack hp'.2 with ⟨-, rfl⟩ | ⟨-, -, -, -, -, rfl⟩
    · exact hp'.1
    · exact hp'.1

/-- Without a hang-up on the socket the loop is left at the end of the data only. -/
theorem status_ne_hangup {r r' : Receiver} {e : ReceiverPoll} (hother : e.readable ≠ .other)
    (hout : e.writable ≠ .other) (hr : r.status ≠ .hangup)
    (h : readWriteLoop crc32 r e = some r') : r'.status ≠ .hangup := by
  refine readWriteLoop_rule crc32 (P := fun r => r.status ≠ .hangup) (fun r m hr hm => ?_)
    (fun m r' hm hreply => ?_) hr h
  · rcases status_of_receive crc32 hother hm with hsame | hend
    · rwa [hsame]
    · rw [hend]
      decide
  · rwa [status_of_reply crc32 hreply, if_neg hout]

end TrtpNetwork
