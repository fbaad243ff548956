import TrtpNetwork.Receiver.InOrder

/-!
# A second copy of a packet

The receiver recognises a duplicate by its slot being taken, and by nothing else: it keeps no number
of the packet it expects.  Between two flushes that is enough.  After a flush the table is empty,
and a packet that was written long ago finds a free slot like any other.

`HarmlessCopy` is what one would want: the copy leaves no trace in the output, in the table, or in
the handling of what follows.  `copy_stored` is what happens: whatever packet of the stream is read
while the table is empty, it is put into the table, or its slot index is negative.  In slot 0 it is
written by the next flush; anywhere else it stays behind.  So no copy is ever harmless
(`copy_not_harmless`).
-/

namespace TrtpNetwork

variable (crc32 : List UInt8 → UInt32) (stream : ℕ → List UInt8)

/-- The datagram of the delivery decodes to its packet in whatever buffer it is read into. -/
def Intact (d : Delivery) : Prop := ∀ r, ReadsPacket crc32 stream r d

/-- What can be seen of the handling of deliveries after `r`: the table, the output, and the numbers
of the ACKs sent since. -/
def handling (r q : Receiver) : Slots Pkt × List (List UInt8) × List UInt8 :=
  (q.listPkt, q.stdout, (q.written.drop r.written.length).map fun w => w.1.seqnum)

/-- The copy that led from `r` to `r'`, with `n` packets written, left no trace. -/
structure HarmlessCopy (n : ℕ) (r r' : Receiver) : Prop where
  stdout : r'.stdout = r.stdout
  table : ∀ k < realWindow, r'.listPkt k = none
  following : ∀ ds : List Delivery, (∀ d ∈ ds, Intact crc32 stream d) →
    arrivals ds = List.range' n (arrivals ds).length →
    (ds.foldlM (deliver crc32) r').map (handling r') =
      (ds.foldlM (deliver crc32) r).map (handling r)

variable {crc32 stream}

/-- The flush of a table that holds one packet: from slot 0 it is written, elsewhere it stays. -/
theorem sendAck_of_single {m r' : Receiver} {k : ℕ} {pkt : Pkt} {bytes : List UInt8}
    (hk : k < realWindow) (hself : m.listPkt k = some pkt)
    (hother : ∀ j, j ≠ k → m.listPkt j = none) (hbytes : pkt.content = some bytes)
    (hack : m.partialAck ≠ -1) (hnack : m.nack = -1) {fresh : Pkt}
    (hstep : sendAck crc32 m fresh = some r') :
    r'.stdout = m.stdout ++ [bytes] ∨ ∃ k < realWindow, r'.listPkt k ≠ none := by
  by_cases hk0 : k = 0
  · left
    subst hk0
    have hfirst : firstEmptyPlace m.listPkt = some 1 := by
      refine firstEmptyPlace_eq_some_iff.mpr ⟨by decide, hother 1 (by decide), fun j hj => ?_⟩
      obtain rfl : j = 0 := by omega
      simp [hself]
    have hrun : ∀ j < 1, ∃ p, m.listPkt j = some p ∧ p.content = some bytes := by
      intro j hj
      obtain rfl : j = 0 := by omega
      exact ⟨pkt, hself, hbytes⟩
    rw [sendAck_eq crc32 hack hnack hfirst hrun] at hstep
    obtain rfl := Option.some.inj hstep
    rfl
  · right
    have hfirst : firstEmptyPlace m.listPkt = some 0 :=
      firstEmptyPlace_eq_some_iff.mpr
        ⟨by decide, hother 0 (Ne.symm hk0), fun j hj => absurd hj (by omega)⟩
    have hrun : ∀ j < 0, ∃ p, m.listPkt j = some p ∧ p.content = some bytes :=
      fun j hj => absurd hj (by omega)
    rw [sendAck_eq crc32 hack hnack hfirst hrun] at hstep
    obtain rfl := Option.some.inj hstep
    refine ⟨k, hk, ?_⟩
    show flushedTable m.listPkt 0 k ≠ none
    rw [flushedTable_apply, if_pos (by omega), Nat.add_zero, hself]
    simp

/-- **Read into an empty table, any packet of the stream is stored.**  After the flush of the same
iteration it has been written, or it is in the table still. -/
theorem copy_stored {ds : List Delivery} {r r' : Receiver} {d : Delivery}
    (h : InOrder crc32 stream ds r) (hflushed : r.partialAck = -1) (hrunning : r.status = .running)
    (hyes : d.1.Reads) (hout : d.1.writable = .pollout) (hread : ReadsPacket crc32 stream r d)
    (hne : stream d.2 ≠ []) (hstep : deliver crc32 r d = some r') :
    r'.stdout = r.stdout ++ [stream d.2] ∨ ∃ k < realWindow, r'.listPkt k ≠ none := by
  obtain ⟨pkt, buffer, t, hpkt, hrcv⟩ := receive_of_reads crc32 hyes hread
  rw [deliver, readWriteLoop, if_pos hrunning, hrcv, if_neg hne] at hstep
  obtain ⟨m, hm, hrest⟩ := Option.bind_eq_some_iff.mp hstep
  have hempty : ∀ k, r.listPkt k = none := by
    intro k
    by_contra hk
    exact ((h.table k).mp hk).2 hflushed
  cases hslot : slotIndex pkt.seqnum.toNat (if pkt.seqnum.toNat = 0 then 0 else r.baseR) with
  | none => cases hm.symm.trans (placePacket_of_negative hslot)
  | some k =>
    obtain hm' := Option.some.inj (hm.symm.trans (placePacket_of_free hslot (hempty k)))
    have hstatus : m.status ≠ .endOfData := by
      rw [hm']
      simp [hrunning]
    have hnack : m.nack = -1 := by
      rw [hm']
      exact h.nack
    have hack : m.partialAck ≠ -1 := by
      rw [hm']
      simp only
      omega
    have htable : m.listPkt = Function.update r.listPkt k (some pkt) := by
      rw [hm']
    have hstdout : m.stdout = r.stdout := by
      rw [hm']
    rw [if_neg hstatus, reply_pollout crc32 hnack hout] at hrest
    have hself : m.listPkt k = some pkt := by
      rw [htable, Function.update_self]
    have hother : ∀ j, j ≠ k → m.listPkt j = none := by
      intro j hj
      rw [htable, Function.update_of_ne hj]
      exact hempty j
    rw [← hstdout]
    exact sendAck_of_single (slotIndex_eq_some hslot).1 hself hother hpkt.2.2 hack hnack hrest

/-- **No copy is harmless.**  Take the receiver after any number of packets of a stream, in order
and each acknowledged before the next, with nothing pending.  Whatever packet of the stream it then
reads and flushes, there is no outcome, or there is a trace. -/
theorem copy_not_harmless (crc32 : List UInt8 → UInt32) (stream : ℕ → List UInt8)
    (hne : ∀ i, stream i ≠ []) (buffer : Memory) (ds : List Delivery) (r : Receiver)
    (hrun : Run (deliver crc32) (fun ds r d => ReadsNext crc32 stream ds r d ∧ NoAckPending r d)
      (Receiver.init buffer) ds r)
    (hflushed : r.partialAck = -1) (hrunning : r.status = .running) (d : Delivery)
    (hyes : d.1.Reads) (hout : d.1.writable = .pollout) (hread : ReadsPacket crc32 stream r d) :
    ¬ ∃ r', deliver crc32 r d = some r' ∧
      HarmlessCopy crc32 stream (arrivals ds).length r r' := by
  have hinv : InOrder crc32 stream ds r := by
    refine hrun.invariant (inOrder_init crc32 stream buffer) ?_
    rintro ds r d r' h ⟨hok, hidle⟩ hstep
    obtain ⟨m, q, hq, -, -, -, hord, -⟩ := h.step hok (fun _ => hne _) hidle
    obtain rfl := Option.some.inj (hq.symm.trans hstep)
    exact hord
  rintro ⟨r', hstep, hharm⟩
  rcases copy_stored hinv hflushed hrunning hyes hout hread (hne _) hstep with
    hwritten | ⟨k, hk, hkt⟩
  · rw [hharm.stdout] at hwritten
    simpa using congrArg List.length hwritten
  · exact hkt (hharm.table k hk)

/-- Packet 0 of the stream, read and flushed. -/
def firstDelivery : Delivery := streamDelivery zlibCrc32 countingStream blankPkt 0 .pollout

/-- **The copy of a packet just written is written again.**  The first packet of the stream arrives,
is flushed, and arrives a second time. -/
theorem not_harmlessCopy :
    ¬ ∀ (stream : ℕ → List UInt8), (∀ i, stream i ≠ []) → ∀ (buffer : Memory)
      (ds : List Delivery) (r : Receiver),
      Run (deliver zlibCrc32)
        (fun ds r d => ReadsNext zlibCrc32 stream ds r d ∧ NoAckPending r d)
        (Receiver.init buffer) ds r →
      r.partialAck = -1 → r.status = .running →
      ∀ d : Delivery, d.1.Reads → d.1.writable = .pollout → ReadsPacket zlibCrc32 stream r d →
        d.2 < (arrivals ds).length → (arrivals ds).length ≤ d.2 + 31 →
        ∃ r', deliver zlibCrc32 r d = some r' ∧
          HarmlessCopy zlibCrc32 stream (arrivals ds).length r r' := by
  intro h
  obtain ⟨r, hrun, hview⟩ := exists_run_of_follow (deliver zlibCrc32)
    (fun ds r d => ReadsNext zlibCrc32 countingStream ds r d ∧ NoAckPending r d)
    (Receiver.init fun _ => 0) [firstDelivery]
    (fun r => (r.partialAck, r.status, r.stdout.length,
      (deliver zlibCrc32 r firstDelivery).map fun q => q.stdout.length))
    (show _ = some (-1, .running, 1, some 2) by decide +kernel)
  simp only [Prod.mk.injEq] at hview
  obtain ⟨hack, hrunning, hout, htwice⟩ := hview
  obtain ⟨r', hr', hharm⟩ := h countingStream (by simp [countingStream]) _ _ r hrun hack hrunning
    firstDelivery (by decide) rfl
    (readsPacket_streamDelivery zlibCrc32 countingStream (by decide) .pollout r) (by decide)
    (by decide)
  rw [hr', Option.map_some, hharm.stdout, hout] at htwice
  exact absurd htwice (by decide)

/-- The general result at the second arrival of packet 0. -/
theorem copy_not_harmless_first :
    ∃ r : Receiver, r.stdout = [[0]] ∧
      ¬ ∃ r', deliver zlibCrc32 r firstDelivery = some r' ∧
        HarmlessCopy zlibCrc32 countingStream 1 r r' := by
  obtain ⟨r, hrun, hview⟩ := exists_run_of_follow (deliver zlibCrc32)
    (fun ds r d => ReadsNext zlibCrc32 countingStream ds r d ∧ NoAckPending r d)
    (Receiver.init fun _ => 0) [firstDelivery]
    (fun r => (r.partialAck, r.status, r.stdout))
    (show _ = some (-1, .running, [[0]]) by decide +kernel)
  simp only [Prod.mk.injEq] at hview
  obtain ⟨hack, hrunning, hout⟩ := hview
  exact ⟨r, hout, copy_not_harmless zlibCrc32 countingStream (by simp [countingStream]) _ _ r
    hrun hack hrunning firstDelivery (by decide) rfl
    (readsPacket_streamDelivery zlibCrc32 countingStream (by decide) .pollout r)⟩

end TrtpNetwork
