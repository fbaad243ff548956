import TrtpNetwork.Sender.Steps

/-!
# Everything the sender sends is a packet of its file

Whatever the sender reads from the socket, in every state it reaches the structures of its heap are
the data packets of the file, each at its position, and every datagram it handed to `write`, by the
loop over `nextseqnum`, on a NACK or by timeout, is the encoding of one of them (`Genuine`).  This
is the sender's half of every result about the two programs together, and the reason why a lookup
by sequence number, modulo 256, finds a packet of the stream at all.
-/

namespace TrtpNetwork

variable (crc32 : List UInt8 → UInt32) (file : List UInt8)

/-- The structure is the data packet for position `p` of the file, ready to be encoded. -/
def IsFilePacket (p : ℕ) (pkt : Pkt) : Prop := IsStreamPacket (chunk file) p pkt ∧ pkt.tr = 0

/-- The heap holds packets of the file, and so does everything that was sent. -/
structure Genuine (s : Sender) : Prop where
  fd : s.fd = file.drop (chunkSize * s.seqnum)
  packet : ∀ p pkt, s.packets p = some pkt → p < s.seqnum ∧ IsFilePacket file p pkt
  sent : ∀ w ∈ s.written, ∃ pkt, IsFilePacket file w.position pkt ∧
    w.datagram = encoding crc32 pkt (chunk file w.position)

variable {crc32 file} {s s' : Sender}

theorem Genuine.seqnum_eq (h : Genuine crc32 file s) {p : ℕ} {pkt : Pkt}
    (hpkt : s.packets p = some pkt) : pkt.seqnum.toNat = p % 256 :=
  (h.packet p pkt hpkt).2.1.2.1

theorem isFilePacket_timestamp {p : ℕ} {pkt : Pkt} (h : IsFilePacket file p pkt) (t : UInt32) :
    IsFilePacket file p { pkt with timestamp := t } := h

/-- The packets a refill makes are the next ones of the file. -/
theorem Genuine.filledPkt (h : Genuine crc32 file s) (fill : FillInputs) (win : ℤ) {p : ℕ}
    (hp : s.seqnum ≤ p) : IsFilePacket file p (filledPkt fill win s p) := by
  have hchunk : (s.fd.drop (chunkSize * (p - s.seqnum))).take chunkSize = chunk file p := by
    rw [h.fd, List.drop_drop, ← Nat.mul_add, chunk]
    congr 3
    omega
  have hlen : (chunk file p).length ≤ 512 :=
    Nat.le_trans (length_chunk_le file p) (by decide)
  rw [TrtpNetwork.filledPkt, hchunk]
  exact ⟨isStreamPacket_dataPkt hlen _ _ _, rfl⟩

/-- Making `n` packets more. -/
theorem Genuine.fill (h : Genuine crc32 file s) (fill : FillInputs) (win : ℤ) {n : ℕ}
    (hfd : s'.fd = s.fd.drop (chunkSize * n)) (hseq : s'.seqnum = s.seqnum + n)
    (hpackets : s'.packets = overwrite s.packets s.seqnum n (TrtpNetwork.filledPkt fill win s))
    (hwritten : s'.written = s.written) : Genuine crc32 file s' where
  fd := by
    rw [hfd, hseq, h.fd, List.drop_drop, Nat.mul_add]
  packet := by
    intro p pkt hp
    rw [hseq]
    rw [hpackets, overwrite] at hp
    split at hp
    · obtain rfl := Option.some.inj hp
      exact ⟨by omega, h.filledPkt fill win (by omega)⟩
    · obtain ⟨hlt, hpkt⟩ := h.packet p pkt hp
      exact ⟨by omega, hpkt⟩
  sent := by
    rw [hwritten]
    exact h.sent

/-- Releasing packets, and changing what `Genuine` does not look at. -/
theorem Genuine.mono (h : Genuine crc32 file s) (hfd : s'.fd = s.fd)
    (hseq : s'.seqnum = s.seqnum) (hwritten : s'.written = s.written)
    (hpackets : ∀ p pkt, s'.packets p = some pkt → s.packets p = some pkt) :
    Genuine crc32 file s' := by
  refine ⟨?_, fun p pkt hp => ?_, ?_⟩
  · rw [hfd, hseq]
    exact h.fd
  · rw [hseq]
    exact h.packet p pkt (hpackets p pkt hp)
  · rw [hwritten]
    exact h.sent

theorem Genuine.deleteAcked (h : Genuine crc32 file s) {seqnum : ℕ}
    (hdel : deleteAcked s seqnum = some s') : Genuine crc32 file s' := by
  rcases deleteAcked_cases hdel with rfl | ⟨k, p, -, -, -, -, rfl⟩
  · exact h
  · exact h.mono rfl rfl rfl fun q pkt hq => eq_some_of_update_none hq

theorem Genuine.handleAck (h : Genuine crc32 file s) {fill : FillInputs} {ack : Pkt}
    (hack : handleAck crc32 fill s ack = some s') : Genuine crc32 file s' := by
  obtain ⟨d, m, hd, hm, rfl⟩ := handleAck_cases crc32 hack
  have hbase : Genuine crc32 file { s with base := ackedBase s ack.seqnum.toNat } :=
    h.mono rfl rfl rfl fun _ _ hq => hq
  obtain ⟨n, -, rfl⟩ := clearAndFillBuffer_cases crc32 hm
  exact (hbase.deleteAcked hd).fill fill ack.window.val rfl rfl rfl rfl

theorem Genuine.transmitted (h : Genuine crc32 file s) {p : ℕ} {pkt : Pkt} {payload : List UInt8}
    (hpkt : s.packets p = some pkt) (hcontent : pkt.content = some payload) (cause : SendCause) :
    Genuine crc32 file (transmitted crc32 s cause p pkt payload) where
  fd := h.fd
  packet := h.packet
  sent := by
    intro w hw
    rcases List.mem_append.mp hw with hw | hw
    · exact h.sent w hw
    · obtain rfl := List.mem_singleton.mp hw
      obtain ⟨-, hfile⟩ := h.packet p pkt hpkt
      have hpayload := Option.some.inj (hcontent.symm.trans hfile.1.2.2)
      exact ⟨pkt, hfile, by rw [hpayload]⟩

theorem Genuine.restamped (h : Genuine crc32 file s) {p : ℕ} {pkt : Pkt}
    (hpkt : s.packets p = some pkt) (t : UInt32) :
    Genuine crc32 file (restamped s p pkt t) where
  fd := h.fd
  packet := by
    intro q pkt' hq
    rcases eq_some_of_update_some hq with ⟨rfl, rfl⟩ | ⟨-, hq⟩
    · obtain ⟨hlt, hfile⟩ := h.packet q pkt hpkt
      exact ⟨hlt, isFilePacket_timestamp hfile t⟩
    · exact h.packet q pkt' hq
  sent := h.sent

theorem Genuine.sendNext (h : Genuine crc32 file s) {e : SenderPoll}
    (hnext : sendNext crc32 e s = some s') : Genuine crc32 file s' := by
  rcases sendNext_cases crc32 hnext with
    ⟨-, rfl⟩ | ⟨i, p, pkt, payload, -, -, hpkt, -, hcontent, rfl⟩
  · exact h.mono rfl rfl rfl fun _ _ hq => hq
  · have hsent := h.transmitted hpkt hcontent .sendLoop
    have hstamped := hsent.restamped hpkt (e.clockSend s.nextseqnum)
    exact hstamped.mono rfl rfl rfl fun _ _ hq => hq

theorem Genuine.sendWindow (h : Genuine crc32 file s) {e : SenderPoll}
    (hsend : sendWindow crc32 s e = some s') : Genuine crc32 file s' := by
  rcases sendWindow_cases crc32 hsend with ⟨-, rfl⟩ | ⟨-, m, hm, hm'⟩
  · exact h
  · have hgen : Genuine crc32 file m :=
      sendLoop_rule crc32 (fun a b ha _ hb => ha.sendNext hb) h hm
    rcases hm' with ⟨-, rfl⟩ | ⟨-, rfl⟩
    · exact hgen
    · exact hgen.mono rfl rfl rfl fun _ _ hq => hq

theorem Genuine.retransmitNack (h : Genuine crc32 file s)
    (hnack : retransmitNack crc32 s = some s') : Genuine crc32 file s' := by
  rcases retransmitNack_cases crc32 hnack with
    rfl | rfl | ⟨i, p, pkt, payload, -, hpkt, hcontent, rfl⟩
  · exact h
  · exact h.mono rfl rfl rfl fun _ _ hq => hq
  · exact (h.transmitted hpkt hcontent .nack).mono rfl rfl rfl fun _ _ hq => hq

theorem Genuine.resendTimeout (h : Genuine crc32 file s) {e : SenderPoll}
    (htime : resendTimeout crc32 s e = some s') : Genuine crc32 file s' := by
  rcases resendTimeout_cases crc32 htime with rfl | ⟨p, pkt, payload, -, hpkt, -, hcontent, rfl⟩
  · exact h
  · have hstamped := h.restamped hpkt e.clockResend
    exact hstamped.transmitted (Function.update_self ..) hcontent .timeout

theorem Genuine.senderReply (h : Genuine crc32 file s) {e : SenderPoll}
    (hreply : senderReply crc32 s e = some s') : Genuine crc32 file s' :=
  senderReply_rule crc32 (fun _ _ ha hb => ha.retransmitNack hb)
    (fun _ _ ha hb => ha.sendWindow hb) (fun _ _ ha hb => ha.resendTimeout hb) h hreply

theorem Genuine.senderReceive (h : Genuine crc32 file s) {e : SenderPoll}
    (hrcv : senderReceive crc32 s e = some s') : Genuine crc32 file s' := by
  rcases senderReceive_cases crc32 hrcv with ⟨-, hf⟩ | ⟨ack, -, hack⟩
  · refine h.mono hf.fd hf.seqnum hf.written fun p pkt hp => ?_
    rwa [hf.packets] at hp
  · have hbuf : Genuine crc32 file { s with buffer := readBuffer s e } :=
      h.mono rfl rfl rfl fun _ _ hq => hq
    exact hbuf.handleAck hack

/-- **One iteration keeps the heap and the log genuine**, whatever it reads. -/
theorem Genuine.step (h : Genuine crc32 file s) {e : SenderPoll}
    (hstep : readWriteLoopSender crc32 s e = some s') : Genuine crc32 file s' :=
  readWriteLoopSender_rule crc32 (fun _ _ hs hm => hs.senderReceive hm)
    (fun _ _ hm hreply => hm.senderReply hreply) h hstep

/-! ## The start -/

/-- The state the loop starts from. -/
structure Starts (s : Sender) : Prop where
  listPkt : ∀ i < tableSize, s.listPkt i = some i
  seqnum : s.seqnum = tableSize
  window : s.window = 1
  base : s.base = 0
  nextseqnum : s.nextseqnum = 0
  nack : s.nack = -1
  lastAck : s.lastAck.seqnum.toNat = 0
  lastAckLength : s.lastAck.length = 0
  bufferUpdate : s.bufferUpdate = true
  written : s.written = []
  status : s.status = .running
  allocated : ∀ p < tableSize, s.packets p ≠ none

variable (crc32 file) in
theorem sender_init_eq (buffer : Memory) (freshAck : Pkt) (clockAck : UInt32)
    (fill : FillInputs) :
    ∃ s, Sender.init crc32 file buffer freshAck clockAck fill = some s ∧
      Genuine crc32 file s ∧ Starts s := by
  have hput := putOnPkt_control crc32 freshAck buffer none 0 1 (Or.inl ⟨rfl, rfl⟩) maxBufferSize
    clockAck
  unfold Sender.init
  simp only [hput, Option.bind_eq_bind, Option.bind_some, List.range_eq_range',
    foldlM_insertPkt]
  refine ⟨_, rfl, ?_, ?_⟩
  · have hempty : Genuine crc32 file
        { listPkt := fun _ => none
          packets := fun _ => none
          buffer := memcpy buffer 0 (encoding crc32 (controlPkt freshAck .ack 0 1 clockAck) [])
          fd := file
          seqnum := 0
          lastValid := 0
          window := 1
          base := 0
          nextseqnum := 0
          nack := -1
          lastAck := controlPkt freshAck .ack 0 1 clockAck
          bufferUpdate := false
          written := []
          status := .running } :=
      ⟨rfl, fun p pkt hp => absurd hp (by simp), fun w hw => absurd hw (by simp)⟩
    exact hempty.fill fill 1 rfl rfl rfl rfl
  · refine ⟨fun i hi => ?_, rfl, rfl, rfl, rfl, rfl, rfl, rfl, rfl, rfl, rfl, fun p hp => ?_⟩
    · simp [overwrite, hi]
    · simp [overwrite, hp]

/-- **What the loop starts from**: packets of the file, in a full table. -/
theorem starts_of_init {buffer : Memory} {freshAck : Pkt} {clockAck : UInt32} {fill : FillInputs}
    (hinit : Sender.init crc32 file buffer freshAck clockAck fill = some s) :
    Genuine crc32 file s ∧ Starts s := by
  obtain ⟨s', hs', hgen, hstart⟩ := sender_init_eq crc32 file buffer freshAck clockAck fill
  obtain rfl := Option.some.inj (hinit.symm.trans hs')
  exact ⟨hgen, hstart⟩

end TrtpNetwork
