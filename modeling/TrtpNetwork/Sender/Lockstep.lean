import TrtpNetwork.Receiver.InOrder
import TrtpNetwork.Sender.AckedInOrder

/-!
# The sender on a link that keeps the order

What the receiver of `Receiver.InOrder` sends back are ACKs number 1, 2, 3, … with the full window.
`ackRead_of_isAck` is what one of them is for the sender that reads it, and `Lockstep` the state of
a sender that read `k` of them and sent `n` packets, each by the loop over `nextseqnum`.

`Lockstep.pass` says how far a pass goes: to four packets past the acknowledged ones, but not past a
multiple of 256 (`reach`).  There `nextseqnum` is reduced to 0, and the loop waits for the ACK with
number 0.  As long as every ACK is followed by a pass, `n` is always the reach of the last ACK, and
then no pass starts with `base` above `nextseqnum`.
-/

namespace TrtpNetwork

variable (crc32 : List UInt8 → UInt32) (file : List UInt8)

/-- The number of packets sent when `k` packets are acknowledged. -/
def reach (k : ℕ) : ℕ := if k = 0 then 1 else min (k + 4) (256 * (k / 256 + 1))

/-- The state of a sender with `k` packets acknowledged in order and `n` sent, each once. -/
structure Lockstep (k n : ℕ) (s : Sender) : Prop extends AckedInOrder crc32 file k s where
  nextseqnum : s.nextseqnum = n % 256
  position : s.written.map Transmission.position = List.range n
  cause : ∀ w ∈ s.written, w.cause = .sendLoop
  running : s.status = .running

variable {crc32 file} {k n : ℕ} {s s' : Sender} {e : SenderPoll}

theorem Lockstep.of_starts (hgen : Genuine crc32 file s) (h : Starts s) :
    Lockstep crc32 file 0 0 s where
  toAckedInOrder := AckedInOrder.of_starts hgen h
  nextseqnum := h.nextseqnum
  position := by rw [h.written]; rfl
  cause := by simp [h.written]
  running := h.status

theorem Lockstep.length_written (h : Lockstep crc32 file k n s) : s.written.length = n := by
  rw [← List.length_map Transmission.position, h.position, List.length_range]

/-- The `j`-th transmission is packet `j`. -/
theorem Lockstep.position_of_getElem? (h : Lockstep crc32 file k n s) {j : ℕ} {w : Transmission}
    (hw : s.written[j]? = some w) : w.position = j := by
  have hmap := congrArg (fun l : List ℕ => l[j]?) h.position
  have hlt := (List.getElem?_eq_some_iff.mp hw).1
  rw [h.length_written] at hlt
  simp only [List.getElem?_map, hw, Option.map_some, List.getElem?_range hlt] at hmap
  exact Option.some.inj hmap

theorem reach_zero : reach 0 = 1 := rfl

theorem reach_of_le (h₀ : k ≠ 0) (h : k % 256 ≤ 252) : reach k = k + 4 := by
  rw [reach, if_neg h₀]
  omega

/-- Near the end of a round the loop stops there. -/
theorem reach_of_gt (h : 252 < k % 256) : reach k = 256 * (k / 256 + 1) := by
  rw [reach, if_neg (by omega)]
  omega

theorem lt_reach (k : ℕ) : k < reach k := by
  unfold reach
  split <;> omega

theorem reach_le_add (k : ℕ) : reach k ≤ k + 4 := by
  unfold reach
  split <;> omega

/-- From one ACK to the next the reach grows where a pass may send, and stays where it may not. -/
theorem reach_succ (k : ℕ) :
    reach k = reach (k + 1) ∨ reach k < reach (k + 1) ∧ (k + 1) % 256 ≤ 252 := by
  by_cases hlate : 252 < (k + 1) % 256
  · left
    rw [reach_of_gt hlate, reach, if_neg (by omega)]
    omega
  · right
    rw [reach_of_le (Nat.succ_ne_zero k) (by omega)]
    have := reach_le_add k
    omega

theorem reach_mono : Monotone reach := by
  refine monotone_nat_of_le_succ fun k => ?_
  rcases reach_succ k with h | ⟨h, -⟩
  · exact h.le
  · exact h.le

/-! ## Reading an ACK -/

/-- **An ACK of the receiver, read by the sender.** -/
theorem ackRead_of_isAck {w : Pkt × List UInt8} (h : IsAck crc32 k w)
    (he : e.readable = .pollin (.bytes w.2)) (s : Sender) :
    ∃ ack, ackRead crc32 s e = some ack ∧ ack.seqnum.toNat = (k + 1) % 256 ∧
      ack.window.val = 4 ∧ pktDel ack = some () := by
  have hdecode := decodeRead_encoding crc32 h.content h.tr (by simp) s.buffer e.beyond e.freshDecode
  refine ⟨decodedPkt crc32 true w.1 [] e.freshDecode, ?_, h.seqnum, h.window,
    pktDel_of_content (content_decodedPkt crc32 e.freshDecode h.content)⟩
  rw [ackRead, he, h.bytes]
  simp only [hdecode]
  exact if_pos ⟨trivial, h.type⟩

theorem Lockstep.withBuffer (h : Lockstep crc32 file k n s) (buffer : Memory) :
    Lockstep crc32 file k n { s with buffer := buffer } where
  toGenuine := h.toGenuine.mono rfl rfl rfl fun _ _ hq => hq
  table := h.table
  allocated := h.allocated
  seqnum := h.seqnum
  base := h.base
  lastAck := h.lastAck
  lastAckDel := h.lastAckDel
  window := h.window
  nack := h.nack
  nextseqnum := h.nextseqnum
  position := h.position
  cause := h.cause
  running := h.running

/-- **The next ACK is read.** -/
theorem Lockstep.receive (h : Lockstep crc32 file k n s) {w : Pkt × List UInt8}
    (hack : IsAck crc32 k w) (he : e.readable = .pollin (.bytes w.2)) :
    ∃ m, senderReceive crc32 s e = some m ∧ Lockstep crc32 file (k + 1) n m ∧
      m.bufferUpdate = true ∧ m.written = s.written := by
  obtain ⟨ack, hread, hnum, hwin, hdel⟩ := ackRead_of_isAck hack he s
  obtain ⟨m, hm, hord, hupdate, hnext, hwritten, hstatus⟩ :=
    (h.withBuffer (readBuffer s e)).handleAck e.fill hnum hwin hdel
  refine ⟨m, (senderReceive_of_ackRead crc32 hread).trans hm, ⟨hord, ?_, ?_, ?_, ?_⟩, hupdate,
    hwritten⟩
  · rw [hnext]
    exact h.nextseqnum
  · rw [hwritten]
    exact h.position
  · rw [hwritten]
    exact h.cause
  · rw [hstatus]
    exact h.running

/-! ## A pass -/

theorem Sends.position {n m : ℕ} (h : Sends s s' n m)
    (hs : s.written.map Transmission.position = List.range n) :
    s'.written.map Transmission.position = List.range (n + m) := by
  obtain ⟨l, hl, hpos, -⟩ := h.written
  rw [hl, List.map_append, hs, hpos, List.range_add]
  rw [List.range'_eq_map_range]

theorem Sends.cause {n m : ℕ} (h : Sends s s' n m) (hs : ∀ w ∈ s.written, w.cause = .sendLoop) :
    ∀ w ∈ s'.written, w.cause = .sendLoop := by
  obtain ⟨l, hl, -, hall⟩ := h.written
  intro w hw
  rw [hl] at hw
  rcases List.mem_append.mp hw with hw | hw
  · exact hs w hw
  · exact (hall w hw).1

/-- Where the loop does not run. -/
theorem sendLoop_of_not_maySend (h : ¬ MaySend s) (fuel : ℕ) :
    sendLoop crc32 e fuel s = some s := by
  cases fuel with
  | zero => rfl
  | succ fuel => rw [sendLoop, if_neg h]

/-- A pass of `m` packets: `nextseqnum` reaches `base + window`, or the loop is kept from starting
at number 0. -/
theorem Lockstep.send (h : Lockstep crc32 file k n s) (hdirty : s.bufferUpdate = true) {m : ℕ}
    (hlo : k ≤ n) (hhi : n + m ≤ k + tableSize) (hbound : s.nextseqnum + m ≤ s.base + s.window)
    (hmay : 0 < m → MaySend s)
    (hrest : s.nextseqnum + m < s.base + s.window → m = 0 ∧ s.nextseqnum = 0 ∧ k % 256 ≠ 0) :
    ∃ s', sendWindow crc32 s e = some s' ∧ Lockstep crc32 file k (n + m) s' := by
  have hnext := h.nextseqnum
  obtain ⟨a, ha, hord, hsends⟩ := h.toAckedInOrder.sendLoop e n m
    (s.base + s.window - s.nextseqnum) (by rw [h.running]; simp) hlo hhi
    (by rw [hnext, Nat.mod_mod]) (by omega) hbound hmay
  have hdone : ¬ MaySend a := by
    rintro ⟨hlt, hzero⟩
    rw [hsends.nextseqnum, hsends.base, hsends.window] at hlt
    rw [hsends.nextseqnum, hord.lastAck] at hzero
    obtain ⟨rfl, h0, hk⟩ := hrest hlt
    omega
  rw [sendLoop_of_not_maySend hdone] at ha
  have hrunning : a.status = .running := hsends.status.trans h.running
  refine ⟨{ a with nextseqnum := a.nextseqnum % 256 }, ?_, ⟨⟨hord.toGenuine.mono rfl rfl rfl
    fun _ _ hq => hq, hord.table, hord.allocated, hord.seqnum, hord.base, hord.lastAck,
    hord.lastAckDel, hord.window, hord.nack⟩, ?_, hsends.position h.position,
    hsends.cause h.cause, hrunning⟩⟩
  · rw [sendWindow, if_pos hdirty, ha]
    simp only [Option.bind_eq_bind, Option.bind_some, hrunning]
    rfl
  · show a.nextseqnum % 256 = (n + m) % 256
    rw [hsends.nextseqnum, hnext]
    omega

/-- **A pass** sends up to `reach k`, from where the last one got to. -/
theorem Lockstep.pass (h : Lockstep crc32 file k n s) (hlo : k ≤ n)
    (hreach : n = reach k ∨ n < reach k ∧ k % 256 ≤ 252)
    (hupdate : s.bufferUpdate = true ∨ n = reach k) :
    ∃ s', sendWindow crc32 s e = some s' ∧ Lockstep crc32 file k (reach k) s' := by
  by_cases hdirty : s.bufferUpdate = true
  swap
  · obtain rfl := hupdate.resolve_left hdirty
    exact ⟨s, by rw [sendWindow, if_neg hdirty], h⟩
  have hbase := h.base
  have hnext := h.nextseqnum
  have hwindow := h.window
  have hle := reach_le_add k
  obtain ⟨m, hm⟩ : ∃ m, reach k = n + m := ⟨reach k - n, by omega⟩
  -- `nextseqnum` does not run past `base + window`, and stops where it gets there or at number 0
  have hbound : s.nextseqnum + m ≤ s.base + s.window ∧ (0 < m → MaySend s) ∧
      (s.nextseqnum + m < s.base + s.window → m = 0 ∧ s.nextseqnum = 0 ∧ k % 256 ≠ 0) := by
    unfold MaySend
    rw [h.lastAck]
    rcases Nat.eq_zero_or_pos k with rfl | hk
    · rw [if_pos rfl] at hwindow
      rw [reach_zero] at hm hreach hle
      omega
    · rw [if_neg (by omega)] at hwindow
      by_cases hlate : 252 < k % 256
      · rw [reach_of_gt hlate] at hm hreach
        omega
      · rw [reach_of_le (by omega) (by omega)] at hm hreach
        omega
  obtain ⟨hstop, hmay, hrest⟩ := hbound
  rw [hm]
  exact h.send hdirty hlo (by unfold tableSize; omega) hstop hmay hrest

/-! ## An iteration -/

/-- The iteration ended with a retransmission by timeout. -/
def TimedOut (e : SenderPoll) (s : Sender) : Prop :=
  0 < e.clockTimer ∧ ∃ w ∈ s.written, w.cause = .timeout

/-- The timeout has an outcome: nothing, or one transmission. -/
theorem Lockstep.resendTimeout (h : Lockstep crc32 file k n s) (e : SenderPoll) :
    ∃ s', TrtpNetwork.resendTimeout crc32 s e = some s' ∧ (s' = s ∨ TimedOut e s') := by
  obtain ⟨pkt, hpkt, -, hcontent⟩ := h.slot (show 0 < tableSize by decide)
  obtain ⟨s', hs'⟩ := exists_resendTimeout crc32 (e := e) (h.table 0 (by decide)) hpkt hcontent
  refine ⟨s', hs', ?_⟩
  rcases resendTimeout_cases crc32 hs' with rfl | ⟨p, pkt', payload, -, -, hlate, -, rfl⟩
  · exact Or.inl rfl
  · exact Or.inr ⟨Nat.zero_lt_of_lt hlate, _,
      List.mem_append_right _ (List.mem_singleton_self _), rfl⟩

/-- The output half, when the socket is writable, with a pass that ends in lockstep. -/
theorem Lockstep.reply (h : Lockstep crc32 file k n s) (he : e.writable = .pollout) {n' : ℕ}
    (hpass : ∃ a, sendWindow crc32 s e = some a ∧ Lockstep crc32 file k n' a) :
    ∃ s', senderReply crc32 s e = some s' ∧ (Lockstep crc32 file k n' s' ∨ TimedOut e s') := by
  obtain ⟨a, ha, hlock⟩ := hpass
  obtain ⟨s', hs', htime⟩ := hlock.resendTimeout e
  have hend : Lockstep crc32 file k n' s' ∨ TimedOut e s' := by
    rcases htime with rfl | hw
    · exact Or.inl hlock
    · exact Or.inr hw
  refine ⟨s', ?_, hend⟩
  have hnack : retransmitNack crc32 s = some s := by
    rw [retransmitNack, if_neg fun hn => hn.1 h.nack]
  rw [senderReply, he]
  simp only [hnack, ha, Option.bind_eq_bind, Option.bind_some, h.running, hlock.running]
  exact hs'

/-- An iteration whose input half ends in lockstep goes on with the output half. -/
theorem Lockstep.goesOn {m : Sender} (h : Lockstep crc32 file k n m)
    (hrunning : s.status = .running) (hm : senderReceive crc32 s e = some m) :
    readWriteLoopSender crc32 s e = senderReply crc32 m e := by
  rw [readWriteLoopSender, if_pos hrunning, hm]
  simp [h.running]

theorem senderReply_of_not_pollout (h : e.writable ≠ .pollout) :
    senderReply crc32 s e = some s := by
  unfold senderReply
  split
  · exact absurd (by assumption) h
  · rfl

/-- A sender in lockstep of which every ACK was followed by a pass. -/
structure UpToDate (crc32 : List UInt8 → UInt32) (file : List UInt8) (k n : ℕ) (s : Sender) :
    Prop extends Lockstep crc32 file k n s where
  reached : n = reach k ∨ k = 0 ∧ n = 0 ∧ s.bufferUpdate = true

theorem UpToDate.of_starts (hgen : Genuine crc32 file s) (h : Starts s) :
    UpToDate crc32 file 0 0 s where
  toLockstep := Lockstep.of_starts hgen h
  reached := Or.inr ⟨rfl, rfl, h.bufferUpdate⟩

theorem UpToDate.le (h : UpToDate crc32 file k n s) : k ≤ n := by
  have := lt_reach k
  have := h.reached
  omega

/-- **An iteration without a read**, with the socket writable. -/
theorem UpToDate.pass (h : UpToDate crc32 file k n s) (he : e.readable = .idle)
    (hout : e.writable = .pollout) :
    ∃ s', readWriteLoopSender crc32 s e = some s' ∧
      (UpToDate crc32 file k (reach k) s' ∨ TimedOut e s') := by
  have hreach : n = reach k ∨ n < reach k ∧ k % 256 ≤ 252 := by
    rcases h.reached with hn | ⟨rfl, rfl, -⟩
    · exact Or.inl hn
    · exact Or.inr ⟨lt_reach 0, by decide⟩
  have hupdate : s.bufferUpdate = true ∨ n = reach k := by
    rcases h.reached with hn | ⟨-, -, hupdate⟩
    · exact Or.inr hn
    · exact Or.inl hupdate
  obtain ⟨s', hs', hend⟩ := h.toLockstep.reply hout (h.toLockstep.pass h.le hreach hupdate)
  rw [h.toLockstep.goesOn h.running (by rw [senderReceive, he])]
  exact ⟨s', hs', hend.imp_left fun hlock => ⟨hlock, Or.inl rfl⟩⟩

/-- An iteration that neither reads nor finds the socket writable. -/
theorem UpToDate.rest (h : UpToDate crc32 file k n s) (he : e.readable = .idle)
    (hout : e.writable ≠ .pollout) : readWriteLoopSender crc32 s e = some s := by
  rw [h.toLockstep.goesOn h.running (by rw [senderReceive, he]), senderReply_of_not_pollout hout]

/-- **An iteration that reads the next ACK**, with the socket writable. -/
theorem UpToDate.read (h : UpToDate crc32 file k n s) (hsent : n ≠ 0) {w : Pkt × List UInt8}
    (hack : IsAck crc32 k w) (he : e.readable = .pollin (.bytes w.2))
    (hout : e.writable = .pollout) :
    ∃ s', readWriteLoopSender crc32 s e = some s' ∧
      (UpToDate crc32 file (k + 1) (reach (k + 1)) s' ∨ TimedOut e s') := by
  obtain ⟨m, hm, hlock, hupdate, -⟩ := h.toLockstep.receive hack he
  have hn : n = reach k := by
    rcases h.reached with hn | ⟨-, hn, -⟩
    · exact hn
    · exact absurd hn hsent
  have hlo := lt_reach k
  have hsucc := reach_succ k
  obtain ⟨s', hs', hend⟩ :=
    hlock.reply hout (hlock.pass (by omega) (by omega) (Or.inl hupdate))
  rw [hlock.goesOn h.running hm]
  exact ⟨s', hs', hend.imp_left fun hlock' => ⟨hlock', Or.inl rfl⟩⟩

end TrtpNetwork
