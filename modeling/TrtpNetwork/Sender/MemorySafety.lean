import TrtpNetwork.Packet.Confined
import TrtpNetwork.Packet.Leftovers
import TrtpNetwork.Sender.Lookups
import TrtpNetwork.Sender.Scan

/-!
# The memory the sender touches

The table holds pointers, and an iteration follows them, releases them and copies them.  As long as
the refill meets no more than one free slot, no two slots hold the same pointer, and so nothing the
table points to has been released (`OwnsMemory`): every lookup comes to an end, whatever is sent can
be encoded, and whatever is released was allocated.

What is left is the packet that was read.  `pkt_decode` follows a length field of 497 to 512 behind
the 512 bytes of the buffer (`ReplyRunsOut`).  And it rejects a datagram with the payload pointer as
`pkt_new` left it, but with the length already stored; `pkt_del` then releases a pointer to nothing
(`RejectsWild`).  Together with the lookups that fail, this is all that can go wrong in an
iteration, whatever is read (`sender_defined_iff`).
-/

namespace TrtpNetwork

/-- One iteration of `read_write_loop_sender`, with the reads of `pkt_decode` confined to the
buffer. -/
def readWriteLoopSenderIn (crc32 : List UInt8 → UInt32) (s : Sender) (e : SenderPoll) :
    Option Sender :=
  if s.status = .running then
    match e.readable with
    | .pollin (.bytes datagram) => do
      let _ ← decodeReadIn crc32 s.buffer (.bytes datagram) e.beyond e.freshDecode
      readWriteLoopSender crc32 s e
    | _ => readWriteLoopSender crc32 s e
  else readWriteLoopSender crc32 s e

/-- The iteration reads a datagram that announces more than the buffer holds. -/
def ReplyRunsOut (crc32 : List UInt8 → UInt32) (s : Sender) (e : SenderPoll) : Prop :=
  ∃ datagram, e.readable = .pollin (.bytes datagram) ∧
    RunsOut crc32 (readInto s.buffer (.bytes datagram)) e.freshDecode

/-- A datagram is rejected, of whose header a length was stored, and the structure it was decoded
into came with a pointer to nothing. -/
def RejectsWild (crc32 : List UInt8 → UInt32) (s : Sender) (e : SenderPoll) : Prop :=
  ∃ datagram, e.readable = .pollin (.bytes datagram) ∧
    (decodeRead crc32 s.buffer (.bytes datagram) e.beyond e.freshDecode).1 ≠ .pktOk ∧
    (decodeRead crc32 s.buffer (.bytes datagram) e.beyond e.freshDecode).2.length ≠ 0 ∧
    e.freshDecode.payload = .wild

/-- **The invariant**: a slot holds the pointer of a packet that is allocated, and `lastAck` can be
released. -/
structure OwnsMemory (crc32 : List UInt8 → UInt32) (file : List UInt8) (s : Sender) : Prop
    extends Genuine crc32 file s where
  live : ∀ i < tableSize, ∀ p, s.listPkt i = some p → s.packets p ≠ none
  releasable : pktDel s.lastAck = some ()

variable {crc32 : List UInt8 → UInt32} {file : List UInt8} {s s' d m : Sender} {e : SenderPoll}
  {acks : List (ℕ × ℕ)}

/-! ## Lookups and releases -/

/-- **A lookup ends** when no slot it passes holds a dangling pointer. -/
theorem OwnsMemory.exists_findBuffer (h : OwnsMemory crc32 file s) {win : ℕ}
    (hwin : win ≤ tableSize) (seq : ℕ) : ∃ found, findBuffer s seq win = some found := by
  have hslot : ∀ i < win, HoldsSeqnum s seq i ∨ LacksSeqnum s seq i := by
    intro i hi
    cases hp : s.listPkt i with
    | none => exact Or.inr fun p hp' => absurd (hp.symm.trans hp') (Option.some_ne_none p).symm
    | some p =>
      obtain ⟨pkt, hpkt⟩ := Option.ne_none_iff_exists'.mp (h.live i (by omega) p hp)
      by_cases hseq : pkt.seqnum.toNat = seq
      · exact Or.inl ⟨p, pkt, hp, hpkt, hseq⟩
      · refine Or.inr fun q hq => ?_
        obtain rfl := Option.some.inj (hp.symm.trans hq)
        exact ⟨pkt, hpkt, hseq⟩
  by_cases hholds : ∃ k, k < win ∧ HoldsSeqnum s seq k
  · classical
    -- the first slot with the number is the one that is found
    obtain ⟨hk, hfirst⟩ := Nat.find_spec hholds
    refine ⟨some (Nat.find hholds), findBuffer_eq_some_iff.mpr ⟨hk, hfirst, fun j hj => ?_⟩⟩
    exact (hslot j (by omega)).resolve_left fun hj' => Nat.find_min hholds hj ⟨by omega, hj'⟩
  · refine ⟨none, findBuffer_eq_neg_one_iff.mpr fun j hj => ?_⟩
    exact (hslot j hj).resolve_left fun hj' => hholds ⟨j, hj, hj'⟩

/-- A packet of the table can be encoded and released. -/
theorem OwnsMemory.content (h : OwnsMemory crc32 file s) {p : ℕ} {pkt : Pkt}
    (hpkt : s.packets p = some pkt) : pkt.content = some (chunk file p) :=
  (h.packet p pkt hpkt).2.1.2.2

theorem OwnsMemory.exists_deleteAcked (h : OwnsMemory crc32 file s) (hwin : s.window ≤ tableSize)
    (num : ℕ) : ∃ d, deleteAcked s num = some d := by
  obtain ⟨found, hfound⟩ := h.exists_findBuffer hwin (ackedSeqnum num)
  cases found with
  | none => exact ⟨s, by simp [deleteAcked, hfound]⟩
  | some k =>
    obtain ⟨-, ⟨p, pkt, hp, hpkt, -⟩, -⟩ := findBuffer_eq_some_iff.mp hfound
    exact ⟨_, deleteAcked_of_found hwin hfound hp hpkt (pktDel_of_content (h.content hpkt))⟩

/-- **An ACK releases one packet and frees its only slot.** -/
theorem OwnsMemory.live_deleteAcked (h : OwnsMemory crc32 file s)
    (hwin : Windowed acks s.listPkt s.seqnum) {num : ℕ} (hd : deleteAcked s num = some d) :
    ∀ i < tableSize, ∀ p, d.listPkt i = some p → d.packets p ≠ none := by
  rcases deleteAcked_cases hd with rfl | ⟨k, q, -, hk, hq, -, rfl⟩
  · exact h.live
  intro i hi p hp
  have hik : i ≠ k := by
    rintro rfl
    have hfree : Function.update s.listPkt i none i = some p := hp
    rw [Function.update_self] at hfree
    cases hfree
  have hold : s.listPkt i = some p := eq_some_of_update_none hp
  have hpq : p ≠ q := by
    have hpi := hwin.slot i hi p hold
    have hqk := hwin.slot k hk q hq
    omega
  show Function.update s.packets q none p ≠ none
  rw [Function.update_of_ne hpq]
  exact h.live i hi p hold

/-! ## The input half -/

theorem pktDel_of_accepted {buffer beyond : Memory} {result : ReadResult} {fresh : Pkt}
    (hok : (decodeRead crc32 buffer result beyond fresh).1 = .pktOk) :
    pktDel (decodeRead crc32 buffer result beyond fresh).2 = some () := by
  obtain ⟨bytes, hbytes⟩ := Option.ne_none_iff_exists'.mp (content_ne_none_of_pktOk crc32 hok)
  exact pktDel_of_content hbytes

/-- **The branch for an ACK** has an outcome: the scan of the table stops at slot 49 at the
latest. -/
theorem OwnsMemory.exists_handleAck (h : OwnsMemory crc32 file s) (hlast : LastHeld s)
    (fill : FillInputs) (ack : Pkt) : ∃ s', handleAck crc32 fill s ack = some s' := by
  have hbase : OwnsMemory crc32 file { s with base := ackedBase s ack.seqnum.toNat } :=
    ⟨h.toGenuine.mono rfl rfl rfl fun _ _ hq => hq, h.live, h.releasable⟩
  obtain ⟨d, hd⟩ := hbase.exists_deleteAcked (hlast.window_le.trans (by decide)) ack.seqnum.toNat
  have htaken : (d.listPkt (tableSize - 1)).isNone = false := by
    rw [listPkt_deleteAcked hd (hlast.window_le.trans (by decide))]
    exact Option.isNone_eq_false_iff.mpr (Option.isSome_iff_ne_none.mpr hlast.last)
  obtain ⟨n, -, hn⟩ := exists_scanWhile (show tableSize - 1 < tableSize by decide) htaken
  have hkept : d.lastAck = s.lastAck := by
    rcases deleteAcked_cases hd with rfl | ⟨k, p, -, -, -, -, rfl⟩ <;> rfl
  refine ⟨_, handleAck_eq crc32 hd (clearAndFillBuffer_eq crc32 fill _ hn) ?_⟩
  show pktDel d.lastAck = some ()
  rw [hkept]
  exact h.releasable

/-- **What the input half comes to**: it has an outcome unless it releases a pointer to nothing. -/
theorem OwnsMemory.exists_senderReceive_iff (h : OwnsMemory crc32 file s) (hlast : LastHeld s)
    (e : SenderPoll) : (∃ m, senderReceive crc32 s e = some m) ↔ ¬ RejectsWild crc32 s e := by
  constructor
  · rintro ⟨m, hm⟩ ⟨datagram, he, hbad, hlen, hwild⟩
    rw [senderReceive, he] at hm
    simp only [handleDecoded, if_pos hbad] at hm
    obtain ⟨⟨⟩, hdel, -⟩ := Option.bind_eq_some_iff.mp hm
    rw [pktDel, if_pos ⟨UInt16.pos_iff_ne_zero.mpr hlen,
      (payload_of_rejected crc32 true hbad).trans hwild⟩] at hdel
    cases hdel
  · intro hsafe
    rw [senderReceive]
    cases he : e.readable with
    | idle => exact ⟨s, rfl⟩
    | other => exact ⟨_, rfl⟩
    | pollin result =>
      cases result with
      | error => exact ⟨_, rfl⟩
      | bytes datagram =>
        simp only [handleDecoded]
        by_cases hbad :
            (decodeRead crc32 s.buffer (.bytes datagram) e.beyond e.freshDecode).1 ≠ .pktOk
        · rw [if_pos hbad]
          refine ⟨_, Option.bind_eq_some_iff.mpr ⟨(), ?_, rfl⟩⟩
          rw [pktDel, if_neg]
          rintro ⟨hlen, hwild⟩
          exact hsafe ⟨datagram, he, hbad, UInt16.pos_iff_ne_zero.mp hlen,
            (payload_of_rejected crc32 true hbad).symm.trans hwild⟩
        · have hdel := pktDel_of_accepted (not_not.mp hbad)
          rw [if_neg hbad]
          split
          · exact ⟨_, Option.bind_eq_some_iff.mpr ⟨(), hdel, rfl⟩⟩
          · split
            · have hbuf : OwnsMemory crc32 file
                  { s with buffer := readInto s.buffer (.bytes datagram) } :=
                ⟨h.toGenuine.mono rfl rfl rfl fun _ _ hq => hq, h.live, h.releasable⟩
              exact hbuf.exists_handleAck ⟨hlast.last, hlast.window_le⟩ e.fill _
            · exact ⟨_, Option.bind_eq_some_iff.mpr ⟨(), hdel, rfl⟩⟩

/-- **The refill** makes packets for the slots it frees, and copies pointers that are alive. -/
theorem OwnsMemory.handleAck (h : OwnsMemory crc32 file s)
    (hwin : Windowed acks s.listPkt s.seqnum) {fill : FillInputs} {ack : Pkt}
    (hdel : pktDel ack = some ()) (hack : TrtpNetwork.handleAck crc32 fill s ack = some s') :
    OwnsMemory crc32 file s' := by
  have hgen := h.toGenuine.handleAck hack
  obtain ⟨d, m, hd, hm, rfl⟩ := handleAck_cases crc32 hack
  have hbase : OwnsMemory crc32 file { s with base := ackedBase s ack.seqnum.toNat } :=
    ⟨h.toGenuine.mono rfl rfl rfl fun _ _ hq => hq, h.live, h.releasable⟩
  have hlive := hbase.live_deleteAcked hwin hd
  obtain ⟨n, hn, rfl⟩ := clearAndFillBuffer_cases crc32 hm
  obtain ⟨hlt, -, -⟩ := scanWhile_zero_eq_some_iff.mp hn
  refine ⟨hgen, fun i hi p hp => ?_, hdel⟩
  have hslot : refilled d.listPkt d.seqnum n i = some p := hp
  rw [refilled_apply hlt.le hi] at hslot
  show overwrite d.packets d.seqnum n _ p ≠ none
  unfold overwrite
  split
  · exact Option.some_ne_none _
  · next hold =>
    split at hslot
    · obtain rfl := Option.some.inj hslot
      exact absurd ⟨by omega, by omega⟩ hold
    · split at hslot
      · exact hlive (i + n) (by omega) p hslot
      · exact hlive i hi p hslot

theorem OwnsMemory.senderReceive (h : OwnsMemory crc32 file s)
    (hwin : Windowed acks s.listPkt s.seqnum)
    (hrcv : TrtpNetwork.senderReceive crc32 s e = some m) : OwnsMemory crc32 file m := by
  rcases senderReceive_cases crc32 hrcv with ⟨-, hf⟩ | ⟨ack, hread, hack⟩
  · refine ⟨h.toGenuine.senderReceive hrcv, ?_, ?_⟩
    · rw [hf.listPkt, hf.packets]
      exact h.live
    · rw [hf.lastAck]
      exact h.releasable
  · have hdel : pktDel ack = some () := by
      unfold ackRead at hread
      split at hread
      · simp only at hread
        split at hread
        · next hok =>
          obtain rfl := Option.some.inj hread
          exact pktDel_of_accepted hok.1
        · cases hread
      · cases hread
    have hbuf : OwnsMemory crc32 file { s with buffer := readBuffer s e } :=
      ⟨h.toGenuine.mono rfl rfl rfl fun _ _ hq => hq, h.live, h.releasable⟩
    exact hbuf.handleAck hwin hdel hack

/-! ## The output half -/

/-- What sends and stamps packets leaves the pointers alone. -/
theorem OwnsMemory.mono (h : OwnsMemory crc32 file s) (hgen : Genuine crc32 file s')
    (hframe : OutputFrame s s') (hlive : ∀ p, s.packets p ≠ none → s'.packets p ≠ none) :
    OwnsMemory crc32 file s' := by
  refine ⟨hgen, fun i hi p hp => ?_, ?_⟩
  · rw [hframe.listPkt] at hp
    exact hlive p (h.live i hi p hp)
  · rw [hframe.lastAck]
    exact h.releasable

theorem live_restamped {p q : ℕ} (pkt : Pkt) (clock : UInt32) (hq : s.packets q ≠ none) :
    (restamped s p pkt clock).packets q ≠ none := by
  show Function.update s.packets p _ q ≠ none
  by_cases hqp : q = p
  · rw [hqp, Function.update_self]
    exact Option.some_ne_none _
  · rwa [Function.update_of_ne hqp]

theorem OwnsMemory.retransmitNack (h : OwnsMemory crc32 file s)
    (hnack : TrtpNetwork.retransmitNack crc32 s = some s') : OwnsMemory crc32 file s' := by
  have hgen := h.toGenuine.retransmitNack hnack
  rcases retransmitNack_cases crc32 hnack with rfl | rfl | ⟨i, p, pkt, payload, -, -, -, rfl⟩
  · exact h
  · exact ⟨hgen, h.live, h.releasable⟩
  · exact ⟨hgen, h.live, h.releasable⟩

theorem OwnsMemory.exists_retransmitNack (h : OwnsMemory crc32 file s) :
    ∃ s', TrtpNetwork.retransmitNack crc32 s = some s' := by
  rw [TrtpNetwork.retransmitNack]
  split
  · obtain ⟨found, hfound⟩ := h.exists_findBuffer (Nat.le_refl _) s.nack.toNat
    rw [hfound]
    cases found with
    | none => exact ⟨_, rfl⟩
    | some i =>
      obtain ⟨-, ⟨p, pkt, hp, hpkt, -⟩, -⟩ := findBuffer_eq_some_iff.mp hfound
      have hsent : transmit crc32 s .nack i = some _ := transmit_eq crc32 hp hpkt (h.content hpkt)
      simp only [Option.bind_eq_bind, Option.bind_some, hsent]
      exact ⟨_, rfl⟩
  · exact ⟨s, rfl⟩

theorem OwnsMemory.sendNext (h : OwnsMemory crc32 file s)
    (hnext : TrtpNetwork.sendNext crc32 e s = some s') : OwnsMemory crc32 file s' := by
  have hgen := h.toGenuine.sendNext hnext
  rcases sendNext_cases crc32 hnext with ⟨-, rfl⟩ | ⟨i, p, pkt, payload, -, -, hpkt, -, -, rfl⟩
  · exact ⟨hgen, h.live, h.releasable⟩
  · exact h.mono hgen ⟨rfl, rfl, rfl, rfl, rfl, rfl⟩ fun q hq => live_restamped
      (s := transmitted crc32 s .sendLoop p pkt payload) pkt (e.clockSend s.nextseqnum) hq

theorem OwnsMemory.exists_sendNext (h : OwnsMemory crc32 file s) (e : SenderPoll) :
    ∃ s', TrtpNetwork.sendNext crc32 e s = some s' := by
  obtain ⟨found, hfound⟩ := h.exists_findBuffer (Nat.le_refl _) (s.nextseqnum % 256)
  cases found with
  | none =>
    rw [TrtpNetwork.sendNext, hfound]
    exact ⟨_, rfl⟩
  | some i =>
    obtain ⟨-, ⟨p, pkt, hp, hpkt, -⟩, -⟩ := findBuffer_eq_some_iff.mp hfound
    exact ⟨_, sendNext_eq crc32 hfound hp hpkt (h.content hpkt)⟩

/-- **The loop over `nextseqnum`** has an outcome after each of its turns. -/
theorem OwnsMemory.exists_sendLoop (h : OwnsMemory crc32 file s) (e : SenderPoll) (fuel : ℕ) :
    ∃ s', sendLoop crc32 e fuel s = some s' := by
  induction fuel generalizing s with
  | zero => exact ⟨s, rfl⟩
  | succ fuel ih =>
    rw [sendLoop]
    by_cases hmay : MaySend s
    · obtain ⟨b, hb⟩ := h.exists_sendNext e
      rw [if_pos hmay, hb, Option.bind_eq_bind, Option.bind_some]
      split
      · exact ⟨b, rfl⟩
      · exact ih (h.sendNext hb)
    · rw [if_neg hmay]
      exact ⟨s, rfl⟩

theorem OwnsMemory.sendWindow (h : OwnsMemory crc32 file s)
    (hsend : TrtpNetwork.sendWindow crc32 s e = some s') : OwnsMemory crc32 file s' := by
  rcases sendWindow_cases crc32 hsend with ⟨-, rfl⟩ | ⟨-, m, hm, hm'⟩
  · exact h
  · have howns : OwnsMemory crc32 file m :=
      sendLoop_rule crc32 (fun a b ha _ hb => ha.sendNext hb) h hm
    rcases hm' with ⟨-, rfl⟩ | ⟨-, rfl⟩
    · exact howns
    · exact ⟨howns.toGenuine.mono rfl rfl rfl fun _ _ hq => hq, howns.live, howns.releasable⟩

theorem OwnsMemory.exists_sendWindow (h : OwnsMemory crc32 file s) (e : SenderPoll) :
    ∃ s', TrtpNetwork.sendWindow crc32 s e = some s' := by
  rw [TrtpNetwork.sendWindow]
  split
  · obtain ⟨b, hb⟩ := h.exists_sendLoop e (s.base + s.window - s.nextseqnum)
    rw [hb, Option.bind_eq_bind, Option.bind_some]
    split
    · exact ⟨b, rfl⟩
    · exact ⟨_, rfl⟩
  · exact ⟨s, rfl⟩

theorem OwnsMemory.resendTimeout (h : OwnsMemory crc32 file s)
    (htime : TrtpNetwork.resendTimeout crc32 s e = some s') : OwnsMemory crc32 file s' := by
  have hgen := h.toGenuine.resendTimeout htime
  rcases resendTimeout_cases crc32 htime with rfl | ⟨p, pkt, payload, -, -, -, -, rfl⟩
  · exact h
  · exact h.mono hgen ⟨rfl, rfl, rfl, rfl, rfl, rfl⟩ fun q hq =>
      live_restamped pkt e.clockResend hq

/-- Slot 0 is free, or its packet can be sent. -/
theorem OwnsMemory.exists_resendTimeout (h : OwnsMemory crc32 file s) (e : SenderPoll) :
    ∃ s', TrtpNetwork.resendTimeout crc32 s e = some s' := by
  cases hp : s.listPkt 0 with
  | none =>
    refine ⟨s, ?_⟩
    rw [TrtpNetwork.resendTimeout]
    split
    · rfl
    · next p hp' => exact absurd (hp.symm.trans hp') (Option.some_ne_none p).symm
  | some p =>
    obtain ⟨pkt, hpkt⟩ := Option.ne_none_iff_exists'.mp (h.live 0 (by decide) p hp)
    exact TrtpNetwork.exists_resendTimeout crc32 hp hpkt (h.content hpkt)

theorem OwnsMemory.senderReply (h : OwnsMemory crc32 file s)
    (hreply : TrtpNetwork.senderReply crc32 s e = some s') : OwnsMemory crc32 file s' :=
  senderReply_rule crc32 (fun _ _ ha hb => ha.retransmitNack hb)
    (fun _ _ ha hb => ha.sendWindow hb) (fun _ _ ha hb => ha.resendTimeout hb) h hreply

/-- **The output half has an outcome.** -/
theorem OwnsMemory.exists_senderReply (h : OwnsMemory crc32 file s) (e : SenderPoll) :
    ∃ s', TrtpNetwork.senderReply crc32 s e = some s' := by
  rw [TrtpNetwork.senderReply]
  split
  · obtain ⟨a, ha⟩ := h.exists_retransmitNack
    rw [ha, Option.bind_eq_bind, Option.bind_some]
    split
    · exact ⟨a, rfl⟩
    have howns := h.retransmitNack ha
    obtain ⟨b, hb⟩ := howns.exists_sendWindow e
    rw [hb, Option.bind_some]
    split
    · exact ⟨b, rfl⟩
    · exact (howns.sendWindow hb).exists_resendTimeout e
  · exact ⟨s, rfl⟩

/-! ## Runs -/

/-- **One iteration.** -/
theorem OwnsMemory.step (h : OwnsMemory crc32 file s) (hwin : Windowed acks s.listPkt s.seqnum)
    (hstep : readWriteLoopSender crc32 s e = some s') : OwnsMemory crc32 file s' := by
  rcases readWriteLoopSender_cases crc32 hstep with
    ⟨-, rfl⟩ | ⟨-, m, hm, ⟨-, rfl⟩ | ⟨-, hreply⟩⟩
  · exact h
  · exact h.senderReceive hwin hm
  · exact (h.senderReceive hwin hm).senderReply hreply

/-- **When an iteration has an outcome**: unless it runs and releases a pointer to nothing. -/
theorem OwnsMemory.exists_step_iff (h : OwnsMemory crc32 file s) (hlast : LastHeld s)
    (hwin : Windowed acks s.listPkt s.seqnum) (e : SenderPoll) :
    (∃ s', readWriteLoopSender crc32 s e = some s') ↔
      (s.status = .running → ¬ RejectsWild crc32 s e) := by
  rw [← h.exists_senderReceive_iff hlast e]
  constructor
  · rintro ⟨s', hs'⟩ hon
    rcases readWriteLoopSender_cases crc32 hs' with ⟨hoff, -⟩ | ⟨-, m, hm, -⟩
    · exact absurd hon hoff
    · exact ⟨m, hm⟩
  · intro hreads
    rw [readWriteLoopSender]
    split
    · next hon =>
      obtain ⟨m, hm⟩ := hreads hon
      rw [hm, Option.bind_eq_bind, Option.bind_some]
      split
      · exact ⟨m, rfl⟩
      · exact (h.senderReceive hwin hm).exists_senderReply e
    · exact ⟨s, rfl⟩

theorem ownsMemory_of_starts (hgen : Genuine crc32 file s) (h : Starts s) :
    OwnsMemory crc32 file s where
  toGenuine := hgen
  live := by
    intro i hi p hp
    rw [h.listPkt i hi] at hp
    obtain rfl := Option.some.inj hp
    exact h.allocated i hi
  releasable := pktDel_of_length h.lastAckLength

/-- What is known of the table in the runs whose refills are short. -/
structure SoundTable (crc32 : List UInt8 → UInt32) (file : List UInt8) (s : Sender) : Prop where
  indexed : Indexed crc32 file s
  last : LastHeld s
  owns : OwnsMemory crc32 file s
  windowed : ∃ acks, Windowed acks s.listPkt s.seqnum

theorem soundTable_of_starts (hgen : Genuine crc32 file s) (h : Starts s) :
    SoundTable crc32 file s :=
  ⟨indexed_of_starts hgen h, lastHeld_of_starts h, ownsMemory_of_starts hgen h,
    [], windowed_of_starts h⟩

theorem SoundTable.step (h : SoundTable crc32 file s) (hshort : RefillsShortRun crc32 s e)
    (hstep : readWriteLoopSender crc32 s e = some s') : SoundTable crc32 file s' := by
  obtain ⟨acks, hwin⟩ := h.windowed
  exact ⟨h.indexed.step hstep, h.last.step hstep, h.owns.step hwin hstep, _,
    hwin.step h.owns.toGenuine hshort hstep⟩

/-- **When an iteration goes through**, without a lookup that misses. -/
theorem SoundTable.goes_iff (h : SoundTable crc32 file s) (hfound : s.status ≠ .absentLookup)
    (e : SenderPoll) :
    (∃ s', readWriteLoopSender crc32 s e = some s' ∧ s'.status ≠ .absentLookup) ↔
      LookupsInPlace crc32 s e ∧ (s.status = .running → ¬ RejectsWild crc32 s e) := by
  obtain ⟨acks, hwin⟩ := h.windowed
  rw [← h.owns.exists_step_iff h.last hwin e]
  constructor
  · rintro ⟨s', hs', hgoes⟩
    exact ⟨(h.indexed.status_of_step hfound hs').mp hgoes, s', hs'⟩
  · rintro ⟨hplace, s', hs'⟩
    exact ⟨s', hs', (h.indexed.status_of_step hfound hs').mpr hplace⟩

/-- Confined to the buffer, an iteration does the same unless it looks behind it. -/
theorem readWriteLoopSenderIn_eq_some_iff :
    readWriteLoopSenderIn crc32 s e = some s' ↔
      (s.status = .running → ¬ ReplyRunsOut crc32 s e) ∧
        readWriteLoopSender crc32 s e = some s' := by
  unfold readWriteLoopSenderIn ReplyRunsOut
  by_cases hon : s.status = .running
  swap
  · rw [if_neg hon]
    exact ⟨fun h => ⟨fun hon' => absurd hon' hon, h⟩, fun h => h.2⟩
  rw [if_pos hon]
  cases he : e.readable with
  | idle => simp
  | other => simp
  | pollin result =>
    cases result with
    | error => simp
    | bytes datagram =>
      simp only [decodeReadIn_eq]
      by_cases hout : RunsOut crc32 (readInto s.buffer (.bytes datagram)) e.freshDecode
      · simp [hon, hout]
      · simp [hout]

/-- **What can go wrong in an iteration of the sender.**  In the runs in which the refill never
finds more than one free slot at the front, for every file and whatever is read: an iteration goes
through, without a lookup that misses, if and only if all it looks up is in place, it reads no
datagram that announces more than the buffer holds, and it rejects none into a structure with a
length and a pointer to nothing. -/
theorem sender_defined_iff (crc32 : List UInt8 → UInt32) (file : List UInt8) (buffer : Memory)
    (freshAck : Pkt) (clockAck : UInt32) (fill : FillInputs) (s₀ : Sender)
    (hinit : Sender.init crc32 file buffer freshAck clockAck fill = some s₀)
    (es : List SenderPoll) (s : Sender)
    (hrun : Run (readWriteLoopSenderIn crc32) (fun _ s e => RefillsShortRun crc32 s e) s₀ es s)
    (hfound : s.status ≠ .absentLookup) (e : SenderPoll) :
    (∃ s', readWriteLoopSenderIn crc32 s e = some s' ∧ s'.status ≠ .absentLookup) ↔
      LookupsInPlace crc32 s e ∧
        (s.status = .running → ¬ ReplyRunsOut crc32 s e ∧ ¬ RejectsWild crc32 s e) := by
  obtain ⟨hgen, hstart⟩ := starts_of_init hinit
  have hsound : SoundTable crc32 file s := by
    refine hrun.invariant (I := fun _ s => SoundTable crc32 file s)
      (soundTable_of_starts hgen hstart) ?_
    intro es s e s' h hshort hstep
    exact h.step hshort (readWriteLoopSenderIn_eq_some_iff.mp hstep).2
  simp only [readWriteLoopSenderIn_eq_some_iff, and_assoc, exists_and_left,
    hsound.goes_iff hfound e, forall_and]
  exact and_left_comm

/-- An ACK with a byte of its length field inverted. -/
def brokenAck (num : ℕ) : List UInt8 :=
  (encoding zlibCrc32 (controlPkt blankPkt .ack num 4 0) []).modify 1 fun b => ~~~b

/-- An iteration that reads it. -/
def brokenAckPoll (num : ℕ) (fresh : Pkt) : SenderPoll :=
  { writePoll with readable := .pollin (.bytes (brokenAck num)), freshDecode := fresh }

/-- Such an ACK is ignored when it is decoded into a structure of zeros.  When the structure holds a
length and a pointer to nothing, the iteration has no outcome. -/
theorem sender_defined_brokenAck : ∃ s : Sender, s.written.length = 5 ∧
    (∃ s', readWriteLoopSenderIn zlibCrc32 s (brokenAckPoll 2 blankPkt) = some s' ∧
      s'.status ≠ .absentLookup) ∧
    ¬ ∃ s', readWriteLoopSenderIn zlibCrc32 s (brokenAckPoll 2 danglingPkt) = some s' ∧
      s'.status ≠ .absentLookup := by
  obtain ⟨s, hrun, hview⟩ := exists_run_of_follow (readWriteLoopSenderIn zlibCrc32)
    (fun _ s e => RefillsShortRun zlibCrc32 s e) (startSender [])
    [writePoll, ackPoll 1 .pollout]
    (fun s => (s.status, s.written.length,
      decide (LookupsInPlace zlibCrc32 s (brokenAckPoll 2 blankPkt)),
      decide (RunsOut zlibCrc32 (readInto s.buffer (.bytes (brokenAck 2))) blankPkt),
      decodeRead zlibCrc32 s.buffer (.bytes (brokenAck 2)) (fun _ => 0) danglingPkt))
    (show _ = some (.running, 5, true, false, .eLength,
      { danglingPkt with type := .ack, window := 4 }) by decide +kernel)
  obtain ⟨hrunning, hrest⟩ := Prod.mk.inj hview
  obtain ⟨hsent, hrest⟩ := Prod.mk.inj hrest
  obtain ⟨hplace, hrest⟩ := Prod.mk.inj hrest
  obtain ⟨hfits, hdecode⟩ := Prod.mk.inj hrest
  have hiff := sender_defined_iff zlibCrc32 [] (fun _ => 0) blankPkt 0 blankFill (startSender [])
    (init_startSender []) _ s hrun (by rw [hrunning]; decide)
  refine ⟨s, hsent, (hiff _).mpr ⟨of_decide_eq_true hplace, fun _ => ⟨?_, ?_⟩⟩, fun hgoes => ?_⟩
  · rintro ⟨datagram, he, hout⟩
    obtain rfl := ReadResult.bytes.inj (Readable.pollin.inj he)
    exact of_decide_eq_false hfits hout
  · rintro ⟨-, -, -, -, hwild⟩
    cases hwild
  · refine (((hiff _).mp hgoes).2 hrunning).2 ⟨_, rfl, ?_, ?_, rfl⟩
    · exact fun hok => by cases (congrArg Prod.fst hdecode).symm.trans hok
    · exact fun hzero => by
        have hlength := congrArg (fun r => r.2.length) hdecode
        exact absurd (hlength.symm.trans hzero) (by decide)

end TrtpNetwork
