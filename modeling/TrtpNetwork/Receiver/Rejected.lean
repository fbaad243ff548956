import TrtpNetwork.Receiver.Dispatch

/-!
# Datagrams that are rejected

A datagram that `pkt_decode` rejects is counted, and may be answered by a NACK.  The receive window
is not concerned: the iteration ends with the table, the output and the ACKs with which it ends
without the datagram (`readWriteLoop_of_rejects`).  Nor do later iterations depend on what the
rejected datagrams have left behind, as long as they decode alike what they read
(`readWriteLoop_of_decodesSame`).  The two are the steps of a simulation, between the receiver on a
line that corrupts datagrams and the same receiver on one that loses them.
-/

namespace TrtpNetwork

/-- The receive windows are the same, and so is whether the loop goes on. -/
structure SameWindow (r q : Receiver) : Prop where
  window : r.windowState = q.windowState
  status : r.status = q.status

variable {crc32 : List UInt8 → UInt32} {r q m r' : Receiver} {e : ReceiverPoll}

/-! ## The input half -/

/-- The front that the end of the transfer writes out. -/
theorem Flushable.exists_closingRun {t : Slots Pkt} (h : Flushable t) :
    ∃ (n : ℕ) (bytes : ℕ → List UInt8), closingRun t = some n ∧
      ∀ i < n, ∃ pkt, t i = some pkt ∧ pkt.content = some (bytes i) := by
  have hstop : ((t realWindow).any fun pkt => decide (pkt.length > 0)) = false := by
    rw [h.behind realWindow (Nat.le_refl _)]
    rfl
  obtain ⟨n, -, hn⟩ := exists_scanWhile (show realWindow < receiveCells by decide) hstop
  have hclosing : closingRun t = some n := hn
  obtain ⟨-, -, hfull⟩ := closingRun_eq_some_iff.mp hclosing
  obtain ⟨bytes, hbytes⟩ := h.exists_bytes fun i hi => by
    obtain ⟨pkt, hpkt, -⟩ := hfull i hi
    rw [hpkt]
    exact Option.some_ne_none pkt
  exact ⟨n, bytes, hclosing, hbytes⟩

/-- The end of the transfer, for a table that can be flushed. -/
theorem closeTransfer_of_flushable (hr : Flushable r.listPkt) {pkt : Pkt}
    (hm : closeTransfer r pkt = some m) :
    ∃ n bytes, closingRun r.listPkt = some n ∧ pktDel pkt = some () ∧
      (∀ i < n, ∃ pkt, r.listPkt i = some pkt ∧ pkt.content = some (bytes i)) ∧
      m = { r with stdout := r.stdout ++ (List.range n).map bytes, status := .endOfData } := by
  obtain ⟨n, bytes, hn, hbytes⟩ := hr.exists_closingRun
  obtain ⟨-, -, -, hdel, -⟩ := closeTransfer_cases hm
  exact ⟨n, bytes, hn, hdel, hbytes,
    Option.some.inj (hm.symm.trans (closeTransfer_eq hn hbytes hdel))⟩

theorem closeTransfer_sameWindow (hq : Flushable q.listPkt) (h : SameWindow r q) {pkt : Pkt}
    (hm : closeTransfer r pkt = some m) :
    ∃ m', closeTransfer q pkt = some m' ∧ SameWindow m m' := by
  obtain ⟨htable, hbase, hplace, hpartial', hstdout, hacks⟩ := WindowState.mk.inj h.window
  obtain ⟨n, bytes, hn, hdel, hbytes, rfl⟩ :=
    closeTransfer_of_flushable (by rwa [htable]) hm
  rw [htable] at hn hbytes
  refine ⟨_, closeTransfer_eq hn hbytes hdel, ?_, rfl⟩
  show WindowState.mk r.listPkt r.baseR r.freePlace r.partialAck
    (r.stdout ++ (List.range n).map bytes) (sentNumbers .ack r.written) = _
  rw [htable, hbase, hplace, hpartial', hstdout, hacks]
  rfl

theorem placePacket_sameWindow (h : SameWindow r q) {pkt : Pkt}
    (hm : placePacket r pkt = some m) :
    ∃ m', placePacket q pkt = some m' ∧ SameWindow m m' := by
  obtain ⟨htable, hbase, hplace, hpartial', hstdout, hacks⟩ := WindowState.mk.inj h.window
  obtain ⟨k, hk, ⟨hfree, rfl⟩ | ⟨htaken, rfl⟩⟩ := placePacket_cases hm
  · rw [hbase] at hk
    rw [htable] at hfree
    refine ⟨_, placePacket_of_free hk hfree, ?_, h.status⟩
    show WindowState.mk (Function.update r.listPkt k (some pkt))
      (if pkt.seqnum.toNat = 0 then 0 else r.baseR) (r.freePlace - 1)
      ((pkt.seqnum.toNat + 1) % 256 : ℕ) r.stdout (sentNumbers .ack r.written) = _
    rw [htable, hbase, hplace, hstdout, hacks]
    rfl
  · rw [hbase] at hk
    rw [htable] at htaken
    refine ⟨_, placePacket_of_taken hk htaken, ?_, h.status⟩
    show WindowState.mk r.listPkt (if pkt.seqnum.toNat = 0 then 0 else r.baseR) r.freePlace
      r.partialAck r.stdout (sentNumbers .ack r.written) = _
    rw [htable, hbase, hplace, hpartial', hstdout, hacks]
    rfl

/-- **One packet, handled with the same window**, moves it in the same way. -/
theorem handlePacket_sameWindow (hq : Flushable q.listPkt) (h : SameWindow r q)
    {decoded : PktStatusCode × Pkt} (hm : handlePacket r decoded = some m) :
    ∃ m', handlePacket q decoded = some m' ∧ SameWindow m m' := by
  unfold handlePacket at *
  by_cases hbad : decoded.1 ≠ .pktOk ∨ decoded.2.type = .nack
  · rw [if_pos hbad] at hm ⊢
    obtain rfl := Option.some.inj hm
    exact ⟨_, rfl, h.window, h.status⟩
  · rw [if_neg hbad] at hm ⊢
    have hstamped : ∀ r : Receiver, ∃ t, (if decoded.2.timestamp > r.lastTimePkt then
        { r with lastTimePkt := decoded.2.timestamp } else r) = { r with lastTimePkt := t } := by
      intro r
      by_cases ht : decoded.2.timestamp > r.lastTimePkt
      · exact ⟨_, if_pos ht⟩
      · exact ⟨_, if_neg ht⟩
    obtain ⟨t, ht⟩ := hstamped r
    obtain ⟨t', ht'⟩ := hstamped q
    have hsame : SameWindow { r with lastTimePkt := t } { q with lastTimePkt := t' } :=
      ⟨h.window, h.status⟩
    unfold goodPacket at *
    simp only [ht, ht'] at hm ⊢
    by_cases hend : decoded.2.length = 0 ∧ decoded.2.type = .data
    · rw [if_pos hend] at hm ⊢
      exact closeTransfer_sameWindow (q := { q with lastTimePkt := t' }) hq hsame hm
    · rw [if_neg hend] at hm ⊢
      exact placePacket_sameWindow hsame hm

/-- The same datagram, decoded alike. -/
def DecodesSame (crc32 : List UInt8 → UInt32) (r q : Receiver) (e : ReceiverPoll) : Prop :=
  ∀ result, e.readable = .pollin result →
    decodeRead crc32 r.buffer result e.beyond e.freshRcv =
      decodeRead crc32 q.buffer result e.beyond e.freshRcv

theorem receive_sameWindow (hq : Flushable q.listPkt) (h : SameWindow r q)
    (hdecode : DecodesSame crc32 r q e) (hm : receive crc32 r e = some m) :
    ∃ m', receive crc32 q e = some m' ∧ SameWindow m m' := by
  unfold receive at *
  cases he : e.readable with
  | idle =>
    rw [he] at hm
    obtain rfl := Option.some.inj hm
    exact ⟨q, rfl, h⟩
  | other =>
    rw [he] at hm
    obtain rfl := Option.some.inj hm
    exact ⟨_, rfl, h.window, rfl⟩
  | pollin result =>
    rw [he] at hm
    dsimp only at hm ⊢
    rw [hdecode result he] at hm
    have hsame : SameWindow { r with buffer := readInto r.buffer result }
        { q with buffer := readInto q.buffer result } := ⟨h.window, h.status⟩
    exact handlePacket_sameWindow (q := { q with buffer := readInto q.buffer result }) hq hsame hm

/-- What is read does not decode. -/
def Rejects (crc32 : List UInt8 → UInt32) (r : Receiver) (e : ReceiverPoll) : Prop :=
  ∃ result, e.readable = .pollin result ∧
    (decodeRead crc32 r.buffer result e.beyond e.freshRcv).1 ≠ .pktOk

theorem receive_of_rejects (h : SameWindow r q) (hbad : Rejects crc32 r e)
    (hm : receive crc32 r e = some m) : SameWindow m q := by
  obtain ⟨result, he, hstatus⟩ := hbad
  rw [receive, he] at hm
  dsimp only at hm
  rw [handlePacket, if_pos (Or.inl hstatus)] at hm
  obtain rfl := Option.some.inj hm
  exact ⟨h.window, h.status⟩

/-! ## The iteration -/

theorem reply_sameWindow (hq : Flushable q.listPkt) (h : SameWindow m q)
    (hstep : reply crc32 m e = some r') :
    ∃ q', reply crc32 q e = some q' ∧ SameWindow r' q' := by
  obtain ⟨m', q', hm', hq', hsame⟩ := exists_reply_agree crc32 hq h.window e
  obtain rfl := Option.some.inj (hm'.symm.trans hstep)
  have hreply : reply crc32 q e = some q' := hq'
  refine ⟨q', hreply, hsame, ?_⟩
  rw [status_of_reply crc32 hstep, status_of_reply crc32 hreply, h.status]

/-- The output halves, after input halves that left the same window. -/
theorem readWriteLoop_sameWindow {m' : Receiver} {e' : ReceiverPoll}
    (hstatus : r.status = q.status) (hrunning : r.status = .running)
    (hm' : Flushable m'.listPkt) (h : SameWindow m m') (hreceive : receive crc32 r e = some m)
    (hreceive' : receive crc32 q e' = some m') (hreply : reply crc32 m' e' = reply crc32 m' e)
    (hstep : readWriteLoop crc32 r e = some r') :
    ∃ q', readWriteLoop crc32 q e' = some q' ∧ SameWindow r' q' := by
  have hrunning' : q.status = .running := by rw [← hstatus, hrunning]
  by_cases hend : m.status = .endOfData
  · obtain rfl := Option.some.inj
      ((readWriteLoop_of_ended crc32 hrunning hreceive hend).symm.trans hstep)
    exact ⟨m', readWriteLoop_of_ended crc32 hrunning' hreceive' (by rw [← h.status, hend]), h⟩
  · rw [readWriteLoop_of_receive crc32 hrunning hreceive hend] at hstep
    obtain ⟨q', hq', hsame⟩ := reply_sameWindow hm' h hstep
    refine ⟨q', ?_, hsame⟩
    rw [readWriteLoop_of_receive crc32 hrunning' hreceive' (by rwa [← h.status]), hreply, hq']

/-- **The hidden part of the state has no influence** on an iteration that decodes what it reads in
the same way. -/
theorem readWriteLoop_of_decodesSame (hq : Flushable q.listPkt) (h : SameWindow r q)
    (hdecode : DecodesSame crc32 r q e) (hstep : readWriteLoop crc32 r e = some r') :
    ∃ q', readWriteLoop crc32 q e = some q' ∧ SameWindow r' q' := by
  rcases readWriteLoop_cases crc32 hstep with ⟨hleft, rfl⟩ | ⟨hrunning, m, hm, -⟩
  · have hleft' : q.status ≠ .running := by rwa [← h.status]
    exact ⟨q, if_neg hleft', h⟩
  · obtain ⟨m', hm', hsame⟩ := receive_sameWindow hq h hdecode hm
    exact readWriteLoop_sameWindow h.status hrunning (hq.receive hm') hsame hm hm' rfl hstep

/-- **A rejected datagram leaves no trace in the window.** -/
theorem readWriteLoop_of_rejects (hq : Flushable q.listPkt) (h : SameWindow r q)
    (hbad : Rejects crc32 r e) (hstep : readWriteLoop crc32 r e = some r') :
    ∃ q', readWriteLoop crc32 q e.withoutDatagram = some q' ∧ SameWindow r' q' := by
  rcases readWriteLoop_cases crc32 hstep with ⟨hleft, rfl⟩ | ⟨hrunning, m, hm, -⟩
  · have hleft' : q.status ≠ .running := by rwa [← h.status]
    exact ⟨q, if_neg hleft', h⟩
  · have hidle : receive crc32 q e.withoutDatagram = some q := rfl
    exact readWriteLoop_sameWindow h.status hrunning hq (receive_of_rejects h hbad hm) hm hidle rfl
      hstep

end TrtpNetwork
