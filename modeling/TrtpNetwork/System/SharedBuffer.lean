import TrtpNetwork.Library.Noninterference
import TrtpNetwork.Packet.Extent
import TrtpNetwork.Receiver.Deliveries
import TrtpNetwork.Sender.Steps

/-!
# The buffer both directions share

Each program has one buffer of 512 bytes on its stack.  Datagrams are read into it and replies are
encoded in it, and `pkt_decode` is handed all of it however short the datagram was.  So a datagram
may be judged on bytes of the one before, or of the last reply.

Everything else in the two loops is blind to the buffer: each of their functions respects the view
that leaves it out, the encoders because they write what they send before they send it.  What is
left is the call of `pkt_decode`, and there it is enough that the datagram settles its decoding
(`judgedOnOwnBytes_of_run`).  `not_judgedOnOwnBytes` reads an empty datagram into a buffer that
holds a data packet, which is stored as if it had arrived.
-/

namespace TrtpNetwork

variable (crc32 : List UInt8 → UInt32)

/-! ## The receiver -/

/-- The receiver without its buffer. -/
def Receiver.unbuffered (r : Receiver) : Receiver := { r with buffer := fun _ => 0 }

theorem Receiver.unbuffered_eq_iff {r q : Receiver} :
    r.unbuffered = q.unbuffered ↔ ∃ buffer, q = { r with buffer := buffer } := by
  constructor
  · intro h
    cases r
    cases q
    simp only [unbuffered, Receiver.mk.injEq] at h
    obtain ⟨rfl, -, rfl, rfl, rfl, rfl, rfl, rfl, rfl, rfl, rfl, rfl⟩ := h
    exact ⟨_, rfl⟩
  · rintro ⟨buffer, rfl⟩
    rfl

/-- A step that gives the same for every buffer, but for the buffer, respects the view. -/
theorem Receiver.respects_of_forall {f : Receiver → Option Receiver}
    (h : ∀ r buffer, (f { r with buffer := buffer }).map Receiver.unbuffered =
      (f r).map Receiver.unbuffered) : Respects Receiver.unbuffered f := by
  intro r q hrq
  obtain ⟨buffer, rfl⟩ := Receiver.unbuffered_eq_iff.mp hrq
  exact (h r buffer).symm

/-- An assignment that does not read the buffer. -/
theorem Receiver.respects_some {h : Receiver → Receiver}
    (hh : ∀ r buffer, (h { r with buffer := buffer }).unbuffered = (h r).unbuffered) :
    Respects Receiver.unbuffered fun r => some (h r) :=
  Receiver.respects_of_forall fun r buffer => congrArg some (hh r buffer)

/-- What does not read the buffer is seen. -/
theorem Receiver.visible {β : Type*} {c : Receiver → β}
    (hc : ∀ r buffer, c { r with buffer := buffer } = c r) :
    ∀ r q : Receiver, r.unbuffered = q.unbuffered → c r = c q := by
  intro r q h
  obtain ⟨buffer, rfl⟩ := Receiver.unbuffered_eq_iff.mp h
  exact (hc r buffer).symm

theorem respects_printSlot (i : ℕ) : Respects Receiver.unbuffered fun r => printSlot r i := by
  refine Respects.lookup (Receiver.visible fun _ _ => rfl) fun pkt => ?_
  refine Respects.lookup (fun _ _ _ => rfl) fun bytes => ?_
  exact Respects.lookup (fun _ _ _ => rfl) fun _ => Receiver.respects_some fun _ _ => rfl

theorem respects_printAndRemove (i : ℕ) :
    Respects Receiver.unbuffered fun r => printAndRemove r i :=
  (respects_printSlot i).bind (Receiver.respects_some fun _ _ => rfl)

theorem respects_clearAndFillBufferR : Respects Receiver.unbuffered clearAndFillBufferR := by
  refine Respects.lookup (Receiver.visible fun _ _ => rfl) fun s => ?_
  have hbase : Respects Receiver.unbuffered fun r =>
      some { r with baseR := (r.baseR + s).tmod realWindow } :=
    Receiver.respects_some fun _ _ => rfl
  have hrest : Respects Receiver.unbuffered fun r =>
      (firstEmptyPlace r.listPkt).bind fun first =>
        ((List.range first).foldlM printAndRemove r).bind fun r =>
          some { r with listPkt := shiftDown r.listPkt first (realWindow - first) } :=
    Respects.lookup (Receiver.visible fun _ _ => rfl) fun first =>
      (Respects.foldlM respects_printAndRemove (List.range first)).bind
        (Receiver.respects_some fun _ _ => rfl)
  exact hbase.bind hrest

theorem respects_closeTransfer (pkt : Pkt) :
    Respects Receiver.unbuffered fun r => closeTransfer r pkt := by
  refine Respects.lookup (Receiver.visible fun _ _ => rfl) fun n => ?_
  refine (Respects.foldlM respects_printSlot (List.range n)).bind ?_
  exact Respects.lookup (fun _ _ _ => rfl) fun _ => Receiver.respects_some fun _ _ => rfl

theorem respects_placePacket (pkt : Pkt) :
    Respects Receiver.unbuffered fun r => placePacket r pkt := by
  refine Receiver.respects_of_forall fun r buffer => ?_
  cases hk : slotIndex pkt.seqnum.toNat (if pkt.seqnum.toNat = 0 then 0 else r.baseR) with
  | none =>
    have hother := placePacket_of_negative (r := { r with buffer := buffer }) hk
    rw [hother, placePacket_of_negative hk]
  | some k =>
    by_cases hfree : r.listPkt k = none
    · have hother := placePacket_of_free (r := { r with buffer := buffer }) hk hfree
      rw [hother, placePacket_of_free hk hfree]
      rfl
    · have hother := placePacket_of_taken (r := { r with buffer := buffer }) hk hfree
      rw [hother, placePacket_of_taken hk hfree]
      rfl

theorem respects_handlePacket (decoded : PktStatusCode × Pkt) :
    Respects Receiver.unbuffered fun r => handlePacket r decoded := by
  have hstamp : Respects Receiver.unbuffered fun r =>
      some (if decoded.2.timestamp > r.lastTimePkt then
        { r with lastTimePkt := decoded.2.timestamp } else r) := by
    refine Receiver.respects_some fun r buffer => ?_
    by_cases h : decoded.2.timestamp > r.lastTimePkt
    · simp only [if_pos h]
      rfl
    · simp only [if_neg h]
      rfl
  have hrest : Respects Receiver.unbuffered fun r =>
      if decoded.2.length = 0 ∧ decoded.2.type = .data then closeTransfer r decoded.2
      else placePacket r decoded.2 :=
    Respects.ite (fun _ _ _ => Iff.rfl) (respects_closeTransfer decoded.2)
      (respects_placePacket decoded.2)
  exact Respects.ite (fun _ _ _ => Iff.rfl) (Receiver.respects_some fun _ _ => rfl)
    (hstamp.bind hrest)

/-- **The input half** depends on the buffer through the decoding only. -/
theorem respects_receive {e : ReceiverPoll}
    (he : ∀ result, e.readable = .pollin result → SettlesDecoding crc32 e.freshRcv result) :
    Respects Receiver.unbuffered fun r => receive crc32 r e := by
  refine Receiver.respects_of_forall fun r buffer => ?_
  unfold receive
  cases hr : e.readable with
  | idle => rfl
  | other => rfl
  | pollin result =>
    simp only
    rw [decodeRead_congr crc32 (he result hr) buffer r.buffer]
    exact respects_handlePacket _ _ _ rfl

theorem respects_sendReply (fresh : Pkt) {seqnum : Receiver → ℤ}
    (hseqnum : ∀ r buffer, seqnum { r with buffer := buffer } = seqnum r) {type : ℤ}
    {ptype : Ptypes} (htype : type = 1 ∧ ptype = .ack ∨ type = 2 ∧ ptype = .nack) :
    Respects Receiver.unbuffered fun r => sendReply crc32 r fresh (seqnum r) type := by
  refine Receiver.respects_of_forall fun r buffer => ?_
  rw [hseqnum, sendReply_eq crc32 _ fresh _ htype, sendReply_eq crc32 _ fresh _ htype]
  rfl

theorem respects_sendNack (fresh : Pkt) :
    Respects Receiver.unbuffered fun r => sendNack crc32 r fresh := by
  have hreply : Respects Receiver.unbuffered fun r => sendReply crc32 r fresh r.nack 2 :=
    respects_sendReply crc32 fresh (fun _ _ => rfl) (Or.inr ⟨rfl, rfl⟩)
  refine Respects.ite (fun r q h => ?_)
    (hreply.bind (Receiver.respects_some fun _ _ => rfl)) (Respects.some fun r q h => h)
  obtain ⟨buffer, rfl⟩ := Receiver.unbuffered_eq_iff.mp h
  exact Iff.rfl

theorem respects_sendAck (fresh : Pkt) :
    Respects Receiver.unbuffered fun r => sendAck crc32 r fresh := by
  have hreply : Respects Receiver.unbuffered fun r => sendReply crc32 r fresh r.partialAck 1 :=
    respects_sendReply crc32 fresh (fun _ _ => rfl) (Or.inl ⟨rfl, rfl⟩)
  have hbase : Respects Receiver.unbuffered fun r =>
      some (if r.partialAck = 0 then { r with baseR := 0 } else r) := by
    refine Receiver.respects_some fun r buffer => ?_
    by_cases h0 : r.partialAck = 0
    · simp only [if_pos h0]
      rfl
    · simp only [if_neg h0]
      rfl
  have hsent := hbase.bind (Receiver.respects_some
    (h := fun r => { r with partialAck := -1 }) fun _ _ => rfl)
  refine Respects.ite (fun r q h => ?_)
    (respects_clearAndFillBufferR.bind (hreply.bind hsent)) (Respects.some fun r q h => h)
  obtain ⟨buffer, rfl⟩ := Receiver.unbuffered_eq_iff.mp h
  exact Iff.rfl

theorem respects_reply (e : ReceiverPoll) :
    Respects Receiver.unbuffered fun r => reply crc32 r e := by
  unfold reply
  cases e.writable with
  | idle => exact Respects.some fun r q h => h
  | pollout => exact (respects_sendNack crc32 e.freshNack).bind (respects_sendAck crc32 e.freshAck)
  | other => exact Receiver.respects_some fun _ _ => rfl

theorem Receiver.status_eq {r q : Receiver} (h : r.unbuffered = q.unbuffered) :
    r.status = q.status := by
  obtain ⟨buffer, rfl⟩ := Receiver.unbuffered_eq_iff.mp h
  rfl

/-- What is read, if anything is, settles its decoding. -/
def ReceiverPoll.Settles (e : ReceiverPoll) : Prop :=
  ∀ result, e.readable = .pollin result → SettlesDecoding crc32 e.freshRcv result

/-- **One iteration of the receiver.** -/
theorem respects_readWriteLoop {e : ReceiverPoll} (he : e.Settles crc32) :
    Respects Receiver.unbuffered fun r => readWriteLoop crc32 r e := by
  have hrest : Respects Receiver.unbuffered fun r : Receiver =>
      if r.status = .endOfData then some r else reply crc32 r e := by
    refine Respects.ite (fun r q h => ?_) (Respects.some fun r q h => h) (respects_reply crc32 e)
    rw [Receiver.status_eq h]
  refine Respects.ite (fun r q h => ?_) ((respects_receive crc32 he).bind hrest)
    (Respects.some fun r q h => h)
  rw [Receiver.status_eq h]

/-! ## The sender -/

/-- The sender without its buffer. -/
def Sender.unbuffered (s : Sender) : Sender := { s with buffer := fun _ => 0 }

theorem Sender.unbuffered_eq_iff {s q : Sender} :
    s.unbuffered = q.unbuffered ↔ ∃ buffer, q = { s with buffer := buffer } := by
  constructor
  · intro h
    cases s
    cases q
    simp only [unbuffered, Sender.mk.injEq] at h
    obtain ⟨rfl, rfl, -, rfl, rfl, rfl, rfl, rfl, rfl, rfl, rfl, rfl, rfl, rfl⟩ := h
    exact ⟨_, rfl⟩
  · rintro ⟨buffer, rfl⟩
    rfl

theorem Sender.respects_of_forall {f : Sender → Option Sender}
    (h : ∀ s buffer, (f { s with buffer := buffer }).map Sender.unbuffered =
      (f s).map Sender.unbuffered) : Respects Sender.unbuffered f := by
  intro s q hsq
  obtain ⟨buffer, rfl⟩ := Sender.unbuffered_eq_iff.mp hsq
  exact (h s buffer).symm

/-- An assignment that does not read the buffer. -/
theorem Sender.respects_some {h : Sender → Sender}
    (hh : ∀ s buffer, (h { s with buffer := buffer }).unbuffered = (h s).unbuffered) :
    Respects Sender.unbuffered fun s => some (h s) :=
  Sender.respects_of_forall fun s buffer => congrArg some (hh s buffer)

theorem Sender.status_eq {s q : Sender} (h : s.unbuffered = q.unbuffered) :
    s.status = q.status := by
  obtain ⟨buffer, rfl⟩ := Sender.unbuffered_eq_iff.mp h
  rfl

/-- What does not read the buffer is seen. -/
theorem Sender.visible {β : Type*} {c : Sender → β}
    (hc : ∀ s buffer, c { s with buffer := buffer } = c s) :
    ∀ s q : Sender, s.unbuffered = q.unbuffered → c s = c q := by
  intro s q h
  obtain ⟨buffer, rfl⟩ := Sender.unbuffered_eq_iff.mp h
  exact (hc s buffer).symm

/-- Lookups are made in the table. -/
theorem findBuffer_visible {num win : Sender → ℕ}
    (hnum : ∀ s buffer, num { s with buffer := buffer } = num s)
    (hwin : ∀ s buffer, win { s with buffer := buffer } = win s) :
    ∀ s q : Sender, s.unbuffered = q.unbuffered →
      findBuffer s (num s) (win s) = findBuffer q (num q) (win q) := by
  refine Sender.visible (c := fun s => findBuffer s (num s) (win s)) fun s buffer => ?_
  rw [hnum, hwin]
  rfl

theorem respects_clearAndFillBuffer (fill : FillInputs) (win : ℤ) :
    Respects Sender.unbuffered fun s => clearAndFillBuffer crc32 fill win s := by
  have hinsert : ∀ i, Respects Sender.unbuffered fun s => insertPkt crc32 fill win s i := by
    intro i
    refine Sender.respects_of_forall fun s buffer => ?_
    rw [insertPkt_eq, insertPkt_eq]
    rfl
  refine Sender.respects_of_forall fun s buffer => ?_
  unfold clearAndFillBuffer
  by_cases h0 : s.listPkt 0 = none <;> simp only [h0, if_true, if_false] <;>
    cases scanWhile Option.isNone s.listPkt tableSize 0 with
    | none => rfl
    | some n => exact Respects.foldlM hinsert (List.range' (tableSize - n) n) _ _ rfl

theorem respects_deleteAcked (seqnum : ℕ) :
    Respects Sender.unbuffered fun s => deleteAcked s seqnum := by
  refine Respects.lookup (findBuffer_visible (fun _ _ => rfl) fun _ _ => rfl) fun found => ?_
  refine Respects.ite (fun _ _ _ => Iff.rfl) (Respects.some fun s q h => h) ?_
  refine Respects.lookup (findBuffer_visible (fun _ _ => rfl) fun _ _ => rfl) fun found => ?_
  refine Respects.lookup (fun _ _ _ => rfl) fun placeToDel => ?_
  refine Respects.lookup (Sender.visible fun _ _ => rfl) fun p => ?_
  refine Respects.lookup (Sender.visible fun _ _ => rfl) fun pkt => ?_
  exact Respects.lookup (fun _ _ _ => rfl) fun _ => Sender.respects_some fun _ _ => rfl

theorem respects_handleAck (fill : FillInputs) (decode : Pkt) :
    Respects Sender.unbuffered fun s => handleAck crc32 fill s decode := by
  have hlast : Respects Sender.unbuffered fun s =>
      (pktDel s.lastAck).bind fun _ => some { s with
        window := if decode.window.val > s.window then decode.window.val else s.window
        lastValid := decode.seqnum.toNat
        lastAck := decode } := by
    exact Respects.lookup (Sender.visible fun _ _ => rfl) fun _ =>
      Sender.respects_some fun _ _ => rfl
  have hbase : Respects Sender.unbuffered fun s =>
      some (if decode.seqnum.toNat > s.lastAck.seqnum.toNat ∨ decode.seqnum.toNat = 0 then
        { s with base := decode.seqnum.toNat } else s) := by
    refine Sender.respects_some fun s buffer => ?_
    by_cases h : decode.seqnum.toNat > s.lastAck.seqnum.toNat ∨ decode.seqnum.toNat = 0
    · simp only [if_pos h]
      rfl
    · simp only [if_neg h]
      rfl
  exact hbase.bind ((respects_deleteAcked _).bind
    ((respects_clearAndFillBuffer crc32 fill _).bind hlast))

theorem respects_handleDecoded (fill : FillInputs) (decoded : PktStatusCode × Pkt) :
    Respects Sender.unbuffered fun s => handleDecoded crc32 fill s decoded := by
  have hdrop : Respects Sender.unbuffered fun s => (pktDel decoded.2).bind fun _ => some s :=
    Respects.lookup (fun _ _ _ => rfl) fun _ => Respects.some fun s q h => h
  have hnack : Respects Sender.unbuffered fun s => handleNack s decoded.2 :=
    Respects.lookup (fun _ _ _ => rfl) fun _ => Sender.respects_some fun _ _ => rfl
  exact Respects.ite (fun _ _ _ => Iff.rfl) hdrop (Respects.ite (fun _ _ _ => Iff.rfl) hnack
    (Respects.ite (fun _ _ _ => Iff.rfl) (respects_handleAck crc32 fill decoded.2) hdrop))

/-- What is read, if anything is, settles its decoding; after an error nothing is decoded. -/
def SenderPoll.Settles (e : SenderPoll) : Prop :=
  ∀ datagram, e.readable = .pollin (.bytes datagram) →
    SettlesDecoding crc32 e.freshDecode (.bytes datagram)

theorem respects_senderReceive {e : SenderPoll} (he : e.Settles crc32) :
    Respects Sender.unbuffered fun s => senderReceive crc32 s e := by
  refine Sender.respects_of_forall fun s buffer => ?_
  unfold senderReceive
  cases hr : e.readable with
  | idle => rfl
  | other => rfl
  | pollin result =>
    cases result with
    | error => rfl
    | bytes datagram =>
      simp only
      rw [decodeRead_congr crc32 (he datagram hr) buffer s.buffer]
      exact respects_handleDecoded crc32 _ _ _ _ rfl

theorem respects_transmit (cause : SendCause) (i : ℕ) :
    Respects Sender.unbuffered fun s => transmit crc32 s cause i := by
  refine Sender.respects_of_forall fun s buffer => ?_
  cases hp : s.listPkt i with
  | none => simp [transmit, hp]
  | some p =>
    cases hpkt : s.packets p with
    | none => simp [transmit, hp, hpkt]
    | some pkt =>
      cases hcontent : pkt.content with
      | none =>
        have hnone : ∀ b, pktEncode crc32 pkt b maxBufferSize = none := by
          intro b
          cases henc : pktEncode crc32 pkt b maxBufferSize with
          | none => rfl
          | some encoded =>
            obtain ⟨payload, hsome⟩ := content_of_pktEncode crc32 henc
            rw [hcontent] at hsome
            cases hsome
        simp [transmit, hp, hpkt, hnone]
      | some payload =>
        have hother := @transmit_eq crc32 { s with buffer := buffer } cause _ _ _ _
          hp hpkt hcontent
        rw [hother, transmit_eq crc32 hp hpkt hcontent]
        rfl

theorem respects_setTimestampAt (i : ℕ) (clock : UInt32) :
    Respects Sender.unbuffered fun s => setTimestampAt s i clock := by
  refine Respects.lookup (Sender.visible fun _ _ => rfl) fun p => ?_
  exact Respects.lookup (Sender.visible fun _ _ => rfl) fun pkt =>
    Sender.respects_some fun _ _ => rfl

theorem respects_retransmitNack : Respects Sender.unbuffered fun s => retransmitNack crc32 s := by
  have hsend : ∀ i, Respects Sender.unbuffered fun s =>
      (transmit crc32 s .nack i).bind fun s => some { s with nack := -1 } :=
    fun i => (respects_transmit crc32 .nack i).bind (Sender.respects_some fun _ _ => rfl)
  refine Respects.ite (fun s q h => ?_) ?_ (Respects.some fun s q h => h)
  · obtain ⟨buffer, rfl⟩ := Sender.unbuffered_eq_iff.mp h
    exact Iff.rfl
  · refine Respects.lookup (findBuffer_visible (fun _ _ => rfl) fun _ _ => rfl) fun found => ?_
    cases found with
    | none => exact Sender.respects_some fun _ _ => rfl
    | some i => exact hsend i

theorem respects_sendNext (e : SenderPoll) :
    Respects Sender.unbuffered fun s => sendNext crc32 e s := by
  have hstamp : ∀ i, Respects Sender.unbuffered fun s : Sender =>
      setTimestampAt s i (e.clockSend s.nextseqnum) := by
    intro i
    exact Sender.respects_of_forall fun s buffer => respects_setTimestampAt i _ _ _ rfl
  have hsend : ∀ i, Respects Sender.unbuffered fun s =>
      (transmit crc32 s .sendLoop i).bind fun s =>
        (setTimestampAt s i (e.clockSend s.nextseqnum)).bind fun s =>
          some { s with bufferUpdate := false, nextseqnum := s.nextseqnum + 1 } :=
    fun i => (respects_transmit crc32 .sendLoop i).bind
      ((hstamp i).bind (Sender.respects_some fun _ _ => rfl))
  refine Respects.lookup (findBuffer_visible (fun _ _ => rfl) fun _ _ => rfl) fun found => ?_
  cases found with
  | none => exact Sender.respects_some fun _ _ => rfl
  | some i => exact hsend i

/-- The status is seen, so a loop may stop on it. -/
theorem respects_unlessAbsent {f : Sender → Option Sender} (hf : Respects Sender.unbuffered f) :
    Respects Sender.unbuffered fun s => if s.status = .absentLookup then some s else f s := by
  refine Respects.ite (fun s q h => ?_) (Respects.some fun s q h => h) hf
  rw [Sender.status_eq h]

theorem respects_sendLoop (e : SenderPoll) (fuel : ℕ) :
    Respects Sender.unbuffered fun s => sendLoop crc32 e fuel s := by
  induction fuel with
  | zero => exact Respects.some fun s q h => h
  | succ fuel ih =>
    refine Respects.ite (fun s q h => ?_)
      ((respects_sendNext crc32 e).bind (respects_unlessAbsent ih)) (Respects.some fun s q h => h)
    obtain ⟨buffer, rfl⟩ := Sender.unbuffered_eq_iff.mp h
    exact Iff.rfl

theorem respects_sendWindow (e : SenderPoll) :
    Respects Sender.unbuffered fun s => sendWindow crc32 s e := by
  have hwrap : Respects Sender.unbuffered fun s =>
      some { s with nextseqnum := s.nextseqnum % 256 } := Sender.respects_some fun _ _ => rfl
  refine Sender.respects_of_forall fun s buffer => ?_
  unfold sendWindow
  by_cases hupdate : s.bufferUpdate = true
  · simp only [if_pos hupdate]
    exact (respects_sendLoop crc32 e _).bind (respects_unlessAbsent hwrap) _ _ rfl
  · simp only [if_neg hupdate]
    rfl

theorem respects_resendTimeout (e : SenderPoll) :
    Respects Sender.unbuffered fun s => resendTimeout crc32 s e := by
  have hresend : ∀ stamp : ℕ, Respects Sender.unbuffered fun s =>
      if stamp < e.clockTimer then
        (setTimestampAt s 0 e.clockResend).bind fun s => transmit crc32 s .timeout 0
      else some s :=
    fun stamp => Respects.ite (fun _ _ _ => Iff.rfl)
      ((respects_setTimestampAt 0 e.clockResend).bind (respects_transmit crc32 .timeout 0))
      (Respects.some fun s q h => h)
  refine Sender.respects_of_forall fun s buffer => ?_
  cases hp : s.listPkt 0 with
  | none => simp [resendTimeout, hp, Sender.unbuffered]
  | some p =>
    have hother := @resendTimeout_eq crc32 e { s with buffer := buffer } p hp
    rw [hother, resendTimeout_eq crc32 hp]
    cases s.packets p with
    | none => rw [Option.bind_none, Option.bind_none]
    | some pkt =>
      rw [Option.bind_some, Option.bind_some]
      exact hresend _ _ _ rfl

theorem respects_senderReply (e : SenderPoll) :
    Respects Sender.unbuffered fun s => senderReply crc32 s e := by
  unfold senderReply
  cases e.writable with
  | idle => exact Respects.some fun s q h => h
  | other => exact Respects.some fun s q h => h
  | pollout =>
    exact (respects_retransmitNack crc32).bind (respects_unlessAbsent
      ((respects_sendWindow crc32 e).bind (respects_unlessAbsent (respects_resendTimeout crc32 e))))

/-- **One iteration of the sender.** -/
theorem respects_readWriteLoopSender {e : SenderPoll} (he : e.Settles crc32) :
    Respects Sender.unbuffered fun s => readWriteLoopSender crc32 s e := by
  have hrest : Respects Sender.unbuffered fun s : Sender =>
      if s.status = .readFailed then some s else senderReply crc32 s e := by
    refine Respects.ite (fun s q h => ?_) (Respects.some fun s q h => h)
      (respects_senderReply crc32 e)
    rw [Sender.status_eq h]
  refine Respects.ite (fun s q h => ?_) ((respects_senderReceive crc32 he).bind hrest)
    (Respects.some fun s q h => h)
  rw [Sender.status_eq h]

/-! ## A datagram and its bytes -/

/-- What the receiver makes of the iteration is the same for any two contents of the buffer: its
outcome, if there is one, is the same but for the buffer. -/
def Receiver.JudgesByBytes (r : Receiver) (e : ReceiverPoll) : Prop :=
  ∀ buffer buffer' : Memory,
    (readWriteLoop crc32 { r with buffer := buffer } e).map Receiver.unbuffered =
      (readWriteLoop crc32 { r with buffer := buffer' } e).map Receiver.unbuffered

/-- The same for the sender. -/
def Sender.JudgesByBytes (s : Sender) (e : SenderPoll) : Prop :=
  ∀ buffer buffer' : Memory,
    (readWriteLoopSender crc32 { s with buffer := buffer } e).map Sender.unbuffered =
      (readWriteLoopSender crc32 { s with buffer := buffer' } e).map Sender.unbuffered

/-- **A datagram is judged on its own bytes.**  In every state of either loop, an iteration whose
datagram settles its decoding has the same effect whatever the buffer held.  So two runs on the same
such datagrams, from states that differ in the buffer, differ in the buffer at most. -/
theorem judgedOnOwnBytes_of_run (crc32 : List UInt8 → UInt32) :
    (∀ (r₀ q₀ r : Receiver) (es : List ReceiverPoll), r₀.unbuffered = q₀.unbuffered →
      Run (readWriteLoop crc32) (fun _ _ e => e.Settles crc32) r₀ es r →
      (∃ q, Run (readWriteLoop crc32) (fun _ _ e => e.Settles crc32) q₀ es q ∧
        r.unbuffered = q.unbuffered) ∧
      ∀ e : ReceiverPoll, e.Settles crc32 → r.JudgesByBytes crc32 e) ∧
    (∀ (s₀ q₀ s : Sender) (es : List SenderPoll), s₀.unbuffered = q₀.unbuffered →
      Run (readWriteLoopSender crc32) (fun _ _ e => e.Settles crc32) s₀ es s →
      (∃ q, Run (readWriteLoopSender crc32) (fun _ _ e => e.Settles crc32) q₀ es q ∧
        s.unbuffered = q.unbuffered) ∧
      ∀ e : SenderPoll, e.Settles crc32 → s.JudgesByBytes crc32 e) := by
  refine ⟨fun r₀ q₀ r es h₀ hrun => ⟨?_, ?_⟩, fun s₀ q₀ s es h₀ hrun => ⟨?_, ?_⟩⟩
  · exact Respects.run (fun e he => respects_readWriteLoop crc32 he) h₀ hrun
  · exact fun e he buffer buffer' => respects_readWriteLoop crc32 he _ _ rfl
  · exact Respects.run (fun e he => respects_readWriteLoopSender crc32 he) h₀ hrun
  · exact fun e he buffer buffer' => respects_readWriteLoopSender crc32 he _ _ rfl

instance (e : ReceiverPoll) : Decidable (e.Settles crc32) :=
  decidable_of_iff (∀ result ∈ e.readable.result, SettlesDecoding crc32 e.freshRcv result)
    (by simp only [Option.mem_def, Readable.result_eq_some_iff, ReceiverPoll.Settles])

/-- Packet 0 of the counting stream, flushed when it is read. -/
def firstPoll : ReceiverPoll := (streamDelivery zlibCrc32 countingStream blankPkt 0 .pollout).1

/-- A buffer full of ones does not change what becomes of packet 0. -/
theorem judgedOnOwnBytes_firstPoll :
    ∃ q : Receiver, Run (readWriteLoop zlibCrc32) (fun _ _ e => e.Settles zlibCrc32)
      (Receiver.init fun _ => 255) [firstPoll] q ∧ q.stdout = [[0]] := by
  obtain ⟨r, hrun, hout⟩ := exists_run_of_follow (readWriteLoop zlibCrc32)
    (fun _ _ e => e.Settles zlibCrc32) (Receiver.init fun _ => 0) [firstPoll] Receiver.stdout
    (show _ = some [[0]] by decide +kernel)
  obtain ⟨⟨q, hq, hsame⟩, -⟩ := (judgedOnOwnBytes_of_run zlibCrc32).1 _
    (Receiver.init fun _ => 255) r _ (Receiver.unbuffered_eq_iff.mpr ⟨_, rfl⟩) hrun
  obtain ⟨buffer, rfl⟩ := Receiver.unbuffered_eq_iff.mp hsame
  exact ⟨_, hq, hout⟩

/-- An empty datagram. -/
def emptyPoll : ReceiverPoll := { firstPoll with readable := .pollin (.bytes []) }

/-- **The receiver reads its own ACK.**  An empty datagram behind packet 0 leaves the ACK for that
packet in the buffer.  It is decoded, stored as packet 1, and acknowledged as packet 1. -/
theorem not_judgedOnOwnBytes :
    ¬ ((∀ (buffer : Memory) (es : List ReceiverPoll) (r : Receiver),
      Run (readWriteLoop zlibCrc32) (fun _ _ _ => True) (Receiver.init buffer) es r →
      ∀ e : ReceiverPoll, r.JudgesByBytes zlibCrc32 e) ∧
    ∀ (file : List UInt8) (buffer : Memory) (freshAck : Pkt) (clockAck : UInt32)
      (fill : FillInputs) (s₀ s : Sender) (es : List SenderPoll),
      Sender.init zlibCrc32 file buffer freshAck clockAck fill = some s₀ →
      Run (readWriteLoopSender zlibCrc32) (fun _ _ _ => True) s₀ es s →
      ∀ e : SenderPoll, s.JudgesByBytes zlibCrc32 e) := by
  rintro ⟨h, -⟩
  obtain ⟨r, hrun, hview⟩ := exists_run_of_follow (readWriteLoop zlibCrc32) (fun _ _ _ => True)
    (Receiver.init fun _ => 0) [firstPoll]
    (fun r => ((readWriteLoop zlibCrc32 r emptyPoll).map fun q => q.written.length,
      (readWriteLoop zlibCrc32 { r with buffer := fun _ => 0 } emptyPoll).map
        fun q => q.written.length))
    (show _ = some (some 2, some 1) by decide +kernel)
  obtain ⟨hown, hblank⟩ := Prod.mk.inj hview
  have hsame := congrArg (Option.map fun q : Receiver => q.written.length)
    (h _ _ r hrun emptyPoll r.buffer fun _ => 0)
  rw [Option.map_map, Option.map_map] at hsame
  have hcount : some 2 = some 1 := hown.symm.trans (hsame.trans hblank)
  cases hcount

end TrtpNetwork
