import TrtpNetwork.Receiver.Dispatch

/-!
# Asking for a packet again

A data packet whose header is intact and whose payload is not tells the receiver what is missing.
It is worth a NACK if it lies in the receive window and has not arrived: with `n` packets written,
if its position `i` satisfies `n ≤ i < n + realWindow` and slot `i - n` is empty (`NamesMissing`).

`read_write_loop` makes another test.  It compares the sequence number with `lastFullAck`, which
stays 0, and looks into the slot of that number instead of the slot of the packet
(`RequestsSlot`).  So only the numbers 1, 2 and 3 are ever asked for, and a NACK that is pending is
sent whatever arrives after it.  `nacksMissing_iff_of_run` says in which states the two tests come
to the same, for every reachable state and every way to the next writable poll.
-/

namespace TrtpNetwork

variable (crc32 : List UInt8 → UInt32) (stream : ℕ → List UInt8)

/-! ## Broken packets -/

/-- A data packet with a valid header CRC that is rejected, which leaves the CRC of its payload. -/
def BrokenPayload (data : Memory) (fresh : Pkt) : Prop :=
  Wire.type data = .data ∧ crc32 (bytesAt data 0 8) = Wire.crc1 data ∧
    (pktDecode crc32 true data maxBufferSize fresh).1 = .eCrc

/-- The iteration reads the packet at its position with a broken payload. -/
def ReadsBroken (r : Receiver) (d : Delivery) : Prop :=
  ∃ result, d.1.readable = .pollin result ∧
    BrokenPayload crc32 (bufferView (readInto r.buffer result) d.1.beyond) d.1.freshRcv ∧
    (Wire.seqnum (bufferView (readInto r.buffer result) d.1.beyond)).toNat = d.2 % 256

/-- From state `r` on, the broken packet is read by the first of the iterations `ds`, `d`, and `d`
is the first of them that finds the socket writable.  What the others read, if anything, are packets
of the stream, and the transfer goes on. -/
structure AnswersBroken (r : Receiver) (i : ℕ) (ds : List Delivery) (d : Delivery)
    (r' : Receiver) : Prop where
  run : Run (deliver crc32) (fun done q d => q.status = .running ∧
    if done = [] then ReadsBroken crc32 q d ∧ d.2 = i else ReadsPacket crc32 stream q d)
    r (ds ++ [d]) r'
  waits : ∀ d' ∈ ds, d'.1.writable = .idle
  writable : d.1.writable = .pollout
  goesOn : r'.status ≠ .endOfData

/-! ## The two tests -/

/-- Packet `i` is missing: in the window, and its slot is empty. -/
def NamesMissing (r : Receiver) (i : ℕ) : Prop :=
  r.stdout.length ≤ i ∧ i < r.stdout.length + realWindow ∧
    r.listPkt (i - r.stdout.length) = none

/-- The test of the code: the number is 1, 2 or 3, and the slot with this index is empty. -/
def RequestsSlot (r : Receiver) (i : ℕ) : Prop :=
  0 < i % 256 ∧ i % 256 < realWindow ∧ r.listPkt (i % 256) = none

instance (r : Receiver) (i : ℕ) : Decidable (NamesMissing r i) := by
  unfold NamesMissing
  infer_instance

instance (r : Receiver) (i : ℕ) : Decidable (RequestsSlot r i) := by
  unfold RequestsSlot
  infer_instance

/-- The NACKs sent on the way from `r` to `r'` are one for packet `i` if that is missing, and none
otherwise. -/
def NacksMissing (r r' : Receiver) (i : ℕ) : Prop :=
  sentNumbers .nack r'.written =
    sentNumbers .nack r.written ++ if NamesMissing r i then [UInt8.ofNat i] else []

/-- The test of the code asks for packet `i` and that is missing; or it does not, and what is
pending is right: a NACK for packet `i` if that is missing, and none otherwise. -/
def TestsRightSlot (r : Receiver) (i : ℕ) : Prop :=
  RequestsSlot r i ∧ NamesMissing r i ∨
    ¬ RequestsSlot r i ∧ r.nack = if NamesMissing r i then ((i % 256 : ℕ) : ℤ) else -1

/-- The NACK that is pending after the broken packet. -/
def pendingNack (r : Receiver) (i : ℕ) : ℤ :=
  if RequestsSlot r i then (i % 256 : ℕ) else r.nack

variable {crc32 stream} {r m q r' : Receiver} {d : Delivery}

/-! ## Reading -/

/-- A packet that gets past the header CRC has its sequence number stored. -/
theorem seqnum_of_brokenPayload {data : Memory} {fresh : Pkt}
    (h : BrokenPayload crc32 data fresh) :
    (pktDecode crc32 true data maxBufferSize fresh).2.seqnum = Wire.seqnum data := by
  obtain ⟨hdata, hcrc, hstatus⟩ := h
  have h8 : 8 ≤ maxBufferSize := by decide
  have htype : ¬ Wire.BadType data := fun hbad => hbad.2 hdata
  by_cases hlen : 512 < (storedLength data fresh).toNat
  · rw [pktDecode_of_overlong crc32 true h8 htype hlen] at hstatus
    cases hstatus
  have hread : ReadsHeader data maxBufferSize fresh := ⟨h8, htype, Nat.not_lt.mp hlen⟩
  by_cases hzero : storedLength data fresh = 0
  · rw [hread.pktDecode_empty crc32 true hcrc hzero] at hstatus
    cases hstatus
  by_cases hcrc2 : crc32 (bytesAt data 12 (storedLength data fresh).toNat) =
      Wire.crc2 data (storedLength data fresh).toNat
  · rw [hread.pktDecode_payload crc32 true hcrc hzero hcrc2] at hstatus
    cases hstatus
  · rw [hread.pktDecode_badCrc2 crc32 true hcrc hzero hcrc2]
    rfl

theorem nack_badPacket {pkt : Pkt} {i : ℕ} (h : pkt.seqnum.toNat = i % 256) (r : Receiver) :
    (badPacket r pkt).nack = pendingNack r i := by
  have hiff : ((pkt.seqnum.toNat : ℤ) < lastFullAck + realWindow ∧
      (pkt.seqnum.toNat : ℤ) > lastFullAck ∧ r.listPkt pkt.seqnum.toNat = none) ↔
      RequestsSlot r i := by
    unfold RequestsSlot lastFullAck
    rw [h]
    constructor
    · rintro ⟨hhi, hlo, hfree⟩
      exact ⟨by omega, by omega, hfree⟩
    · rintro ⟨hlo, hhi, hfree⟩
      exact ⟨by omega, by omega, hfree⟩
  unfold badPacket pendingNack
  simp only [hiff]
  rw [h]

/-- **A broken packet** sets the pending NACK, or leaves it. -/
theorem receive_of_broken (h : ReadsBroken crc32 r d) (hm : receive crc32 r d.1 = some m) :
    m.nack = pendingNack r d.2 ∧ m.written = r.written ∧ m.status = r.status := by
  obtain ⟨result, he, hbroken, hseq⟩ := h
  rw [receive, he] at hm
  have hstatus := hbroken.2.2
  have hbad : (decodeRead crc32 r.buffer result d.1.beyond d.1.freshRcv).1 ≠ .pktOk := by
    rw [decodeRead, hstatus]
    decide
  simp only [handlePacket, if_pos (Or.inl hbad)] at hm
  obtain rfl := Option.some.inj hm
  refine ⟨nack_badPacket (i := d.2) ?_ { r with buffer := readInto r.buffer result }, rfl, rfl⟩
  rw [decodeRead, seqnum_of_brokenPayload hbroken]
  exact hseq

/-- A packet of the stream leaves it. -/
theorem nack_of_readsPacket (h : ReadsPacket crc32 stream r d)
    (hm : receive crc32 r d.1 = some m) : m.nack = r.nack := by
  by_cases hyes : d.1.Reads
  · obtain ⟨pkt, buffer, t, -, hrcv⟩ := receive_of_reads crc32 hyes h
    rw [hrcv] at hm
    split at hm
    · obtain ⟨-, out, -, -, rfl⟩ := closeTransfer_cases hm
      rfl
    · obtain ⟨k, -, ⟨-, rfl⟩ | ⟨-, rfl⟩⟩ := placePacket_cases hm <;> rfl
  · rw [receive] at hm
    cases he : d.1.readable with
    | idle =>
      rw [he] at hm
      obtain rfl := Option.some.inj hm
      rfl
    | other =>
      rw [he] at hm
      obtain rfl := Option.some.inj hm
      rfl
    | pollin result => exact absurd ⟨result, he⟩ hyes

/-! ## Sending -/

theorem sentNumbers_append (type : Ptypes) (ws ws' : List (Pkt × List UInt8)) :
    sentNumbers type (ws ++ ws') = sentNumbers type ws ++ sentNumbers type ws' := by
  rw [sentNumbers, List.filter_append, List.map_append]
  rfl

/-- **The writable poll** sends the pending NACK, and no other. -/
theorem reply_nacks {e : ReceiverPoll} (he : e.writable = .pollout)
    (h : reply crc32 m e = some r') :
    sentNumbers .nack r'.written =
      sentNumbers .nack m.written ++ if m.nack = -1 then [] else [toUint8 m.nack] := by
  obtain ⟨hno, -⟩ | ⟨-, q, hq, hack⟩ := reply_cases crc32 h
  · exact absurd he hno
  have hnacks : q.nack = -1 ∧ sentNumbers .nack q.written =
      sentNumbers .nack m.written ++ if m.nack = -1 then [] else [toUint8 m.nack] := by
    obtain ⟨hnack, rfl⟩ | ⟨hnack, rfl⟩ := sendNack_cases crc32 hq
    · rw [if_pos hnack, List.append_nil]
      exact ⟨hnack, rfl⟩
    · rw [if_neg hnack, sentNumbers_append]
      exact ⟨rfl, rfl⟩
  obtain ⟨-, rfl⟩ | ⟨-, s, bytes, -, -, rfl⟩ := sendAck_cases crc32 hack hnacks.1
  · exact hnacks.2
  · rw [sentNumbers_append]
    have hnone : sentNumbers .nack [(ackPkt q e.freshAck s,
        encoding crc32 (ackPkt q e.freshAck s) [])] = [] := rfl
    rw [hnone, List.append_nil]
    exact hnacks.2

/-- An iteration that does not find the socket writable has an input half only. -/
theorem receive_of_deliver_idle (hrunning : r.status = .running) (hidle : d.1.writable = .idle)
    (h : deliver crc32 r d = some q) : receive crc32 r d.1 = some q := by
  obtain ⟨hstopped, -⟩ | ⟨-, m, hm, ⟨-, rfl⟩ | ⟨-, hrep⟩⟩ := readWriteLoop_cases crc32 h
  · exact absurd hrunning hstopped
  · exact hm
  · rw [reply, hidle] at hrep
    obtain rfl := Option.some.inj hrep
    exact hm

/-- What is pending while the receiver waits for a writable socket. -/
theorem pending_while_waiting {i : ℕ} {ds : List Delivery}
    (hrun : Run (deliver crc32) (fun done q d => q.status = .running ∧
      if done = [] then ReadsBroken crc32 q d ∧ d.2 = i else ReadsPacket crc32 stream q d)
      r ds q) (hwaits : ∀ d' ∈ ds, d'.1.writable = .idle) :
    (ds = [] ∧ q = r) ∨ (ds ≠ [] ∧ q.nack = pendingNack r i ∧
      sentNumbers .nack q.written = sentNumbers .nack r.written) := by
  have hinv : (∀ d' ∈ ds, d'.1.writable = .idle) → (ds = [] ∧ q = r) ∨ (ds ≠ [] ∧
      q.nack = pendingNack r i ∧
        sentNumbers .nack q.written = sentNumbers .nack r.written) := by
    refine hrun.invariant (I := fun ds q => (∀ d' ∈ ds, d'.1.writable = .idle) →
      (ds = [] ∧ q = r) ∨ (ds ≠ [] ∧ q.nack = pendingNack r i ∧
        sentNumbers .nack q.written = sentNumbers .nack r.written))
      (fun _ => Or.inl ⟨rfl, rfl⟩) ?_
    intro ds q d q' hq hok hstep hidle
    obtain ⟨hrunning, hreads⟩ := hok
    have hm := receive_of_deliver_idle hrunning (hidle d (by simp)) hstep
    refine Or.inr ⟨by simp, ?_⟩
    obtain ⟨rfl, rfl⟩ | ⟨hne, hnack, hwritten⟩ := hq fun d' hd' => hidle d' (by simp [hd'])
    · rw [if_pos rfl] at hreads
      obtain ⟨hbroken, rfl⟩ := hreads
      obtain ⟨hpending, hsame, -⟩ := receive_of_broken hbroken hm
      exact ⟨hpending, by rw [hsame]⟩
    · rw [if_neg hne] at hreads
      have hsame := (receives_of_receive crc32 hm).written
      exact ⟨(nack_of_readsPacket hreads hm).trans hnack, by rw [hsame, hwritten]⟩
  exact hinv hwaits

/-- **What is sent for a broken packet**: the NACK that is pending after it. -/
theorem AnswersBroken.sent {i : ℕ} {ds : List Delivery}
    (h : AnswersBroken crc32 stream r i ds d r') :
    sentNumbers .nack r'.written = sentNumbers .nack r.written ++
      if pendingNack r i = -1 then [] else [toUint8 (pendingNack r i)] := by
  obtain ⟨hrun, hwaits, hwritable, hgoes⟩ := h
  generalize hall : ds ++ [d] = all at hrun
  cases hrun with
  | nil => simp at hall
  | snoc hrun hok hstep =>
    obtain ⟨rfl, hd⟩ := List.append_inj' hall rfl
    obtain rfl := List.singleton_inj.mp hd
    obtain ⟨hrunning, hreads⟩ := hok
    obtain ⟨hstopped, -⟩ | ⟨-, m, hm, ⟨hend, rfl⟩ | ⟨-, hrep⟩⟩ := readWriteLoop_cases crc32 hstep
    · exact absurd hrunning hstopped
    · exact absurd hend hgoes
    · have hsent := reply_nacks hwritable hrep
      obtain ⟨rfl, rfl⟩ | ⟨hne, hnack, hwritten⟩ := pending_while_waiting hrun hwaits
      · rw [if_pos rfl] at hreads
        obtain ⟨hbroken, rfl⟩ := hreads
        obtain ⟨hpending, hsame, -⟩ := receive_of_broken hbroken hm
        rw [hsent, hpending, hsame]
      · rw [if_neg hne] at hreads
        rw [hsent, nack_of_readsPacket hreads hm, hnack,
          (receives_of_receive crc32 hm).written, hwritten]

/-! ## Over whole runs -/

/-- What is pending is a number the test lets through. -/
def NackInRange (r : Receiver) : Prop := r.nack = -1 ∨ 0 < r.nack ∧ r.nack < realWindow

theorem NackInRange.badPacket (h : NackInRange r) (pkt : Pkt) : NackInRange (badPacket r pkt) := by
  unfold NackInRange TrtpNetwork.badPacket
  simp only
  split
  · rename_i hasked
    unfold lastFullAck at hasked
    exact Or.inr ⟨by omega, by omega⟩
  · exact h

theorem NackInRange.receive {e : ReceiverPoll} (h : NackInRange r)
    (hm : receive crc32 r e = some m) : NackInRange m := by
  rw [TrtpNetwork.receive] at hm
  split at hm
  · obtain rfl := Option.some.inj hm
    exact h
  · rename_i result _
    rw [handlePacket] at hm
    split at hm
    · obtain rfl := Option.some.inj hm
      exact NackInRange.badPacket (r := { r with buffer := readInto r.buffer result }) h _
    · rw [goodPacket] at hm
      have hnack : m.nack = r.nack := by
        split at hm
        · obtain ⟨-, out, -, -, rfl⟩ := closeTransfer_cases hm
          split <;> rfl
        · obtain ⟨k, -, ⟨-, rfl⟩ | ⟨-, rfl⟩⟩ := placePacket_cases hm
          · split <;> rfl
          · split <;> rfl
      rw [NackInRange, hnack]
      exact h
  · obtain rfl := Option.some.inj hm
    exact h

theorem NackInRange.reply {e : ReceiverPoll} (h : NackInRange m)
    (hstep : reply crc32 m e = some r') : NackInRange r' := by
  obtain ⟨-, status, rfl⟩ | ⟨-, q, hq, hack⟩ := reply_cases crc32 hstep
  · exact h
  · have hnack : q.nack = -1 := by
      obtain ⟨hnack, rfl⟩ | ⟨-, rfl⟩ := sendNack_cases crc32 hq
      · exact hnack
      · rfl
    obtain ⟨-, rfl⟩ | ⟨-, s, bytes, -, -, rfl⟩ := sendAck_cases crc32 hack hnack
    · exact Or.inl hnack
    · exact Or.inl hnack

theorem nackInRange_of_run {buffer : Memory} {es : List ReceiverPoll}
    {ok : List ReceiverPoll → Receiver → ReceiverPoll → Prop}
    (hrun : Run (readWriteLoop crc32) ok (Receiver.init buffer) es r) : NackInRange r := by
  refine hrun.invariant (I := fun _ r => NackInRange r) (Or.inl rfl) ?_
  intro es r e r' h _ hstep
  exact readWriteLoop_rule crc32 (fun _ _ hr hm => hr.receive hm)
    (fun _ _ hm hrep => hm.reply hrep) h hstep

theorem toUint8_mod (i : ℕ) : toUint8 ((i % 256 : ℕ) : ℤ) = UInt8.ofNat i := by
  apply UInt8.toNat_inj.mp
  rw [toNat_toUint8_natCast, UInt8.toNat_ofNat']
  omega

/-- The NACK for a number in range names packet `i` exactly if it is the number of packet `i`. -/
theorem toUint8_nack_eq_iff {nack : ℤ} (h : 0 < nack ∧ nack < realWindow) (i : ℕ) :
    toUint8 nack = UInt8.ofNat i ↔ nack = ((i % 256 : ℕ) : ℤ) := by
  unfold realWindow at h
  have hlo := toNat_toUint8 nack
  rw [← UInt8.toNat_inj, UInt8.toNat_ofNat']
  omega

/-- **Which broken packets are asked for again.**  In every reachable state, for every stream
position and every way to the next writable poll: a NACK for the packet is sent if it is missing,
and none if it is not, exactly if the test of the code comes to that. -/
theorem nacksMissing_iff_of_run (crc32 : List UInt8 → UInt32) (stream : ℕ → List UInt8)
    (buffer : Memory) (es : List ReceiverPoll) (r : Receiver)
    (hrun : Run (readWriteLoop crc32) (fun _ _ _ => True) (Receiver.init buffer) es r) (i : ℕ)
    (ds : List Delivery) (d : Delivery) (r' : Receiver)
    (h : AnswersBroken crc32 stream r i ds d r') :
    NacksMissing r r' i ↔ TestsRightSlot r i := by
  rw [NacksMissing, h.sent, List.append_cancel_left_eq, TestsRightSlot, pendingNack]
  by_cases hreq : RequestsSlot r i
  · -- packet `i` is asked for
    have hne : ((i % 256 : ℕ) : ℤ) ≠ -1 := by omega
    simp only [hreq, if_true, if_neg hne, toUint8_mod]
    by_cases hmissing : NamesMissing r i
    · simp [hmissing]
    · simp [hmissing]
  · simp only [hreq, if_false, false_and, false_or, not_false_eq_true, true_and]
    obtain hnone | hrange := nackInRange_of_run hrun
    · rw [if_pos hnone, hnone]
      by_cases hmissing : NamesMissing r i
      · simp only [if_pos hmissing, List.nil_eq, reduceCtorEq]
      · simp [hmissing]
    · -- an older request is sent now
      have hne : r.nack ≠ -1 := by omega
      rw [if_neg hne]
      by_cases hmissing : NamesMissing r i
      · rw [if_pos hmissing, if_pos hmissing, List.singleton_inj]
        exact toUint8_nack_eq_iff hrange i
      · simp [hmissing, hne]

/-- Packet `i` of the counting stream with its payload corrupted, while the socket is writable. -/
def brokenDelivery (i : ℕ) : Delivery where
  fst := { (streamDelivery zlibCrc32 countingStream blankPkt i .pollout).1 with
    readable := .pollin (.bytes ((encoding zlibCrc32
      (dataPkt blankPkt (countingStream i) i realWindow 0) (countingStream i)).set 12 200)) }
  snd := i

/-- Its answer in the first iteration of the loop. -/
theorem answersBroken_init {i : ℕ} (hi : ReadsBroken zlibCrc32 (Receiver.init fun _ => 0)
      (brokenDelivery i))
    (hstatus : (deliver zlibCrc32 (Receiver.init fun _ => 0) (brokenDelivery i)).map
      Receiver.status = some .running) :
    ∃ r', AnswersBroken zlibCrc32 countingStream (Receiver.init fun _ => 0) i [] (brokenDelivery i)
      r' := by
  obtain ⟨r', hr', hrunning⟩ := Option.map_eq_some_iff.mp hstatus
  refine ⟨r', Run.snoc Run.nil ⟨rfl, ?_⟩ hr', by simp, rfl, by rw [hrunning]; decide⟩
  rw [if_pos rfl]
  exact ⟨hi, rfl⟩

theorem readsBroken_one : ReadsBroken zlibCrc32 (Receiver.init fun _ => 0) (brokenDelivery 1) :=
  ⟨_, rfl, ⟨by decide +kernel, by decide +kernel, by decide +kernel⟩, by decide +kernel⟩

theorem readsBroken_zero : ReadsBroken zlibCrc32 (Receiver.init fun _ => 0) (brokenDelivery 0) :=
  ⟨_, rfl, ⟨by decide +kernel, by decide +kernel, by decide +kernel⟩, by decide +kernel⟩

/-- A broken packet 1 in the first iteration is asked for. -/
theorem nacksMissing_one :
    ∃ r', sentNumbers .nack r'.written = [1] ∧ NacksMissing (Receiver.init fun _ => 0) r' 1 := by
  obtain ⟨r', h⟩ := answersBroken_init readsBroken_one (by decide +kernel)
  have hmissing := (nacksMissing_iff_of_run zlibCrc32 countingStream _ [] _ Run.nil 1 [] _ r' h).mpr
    (Or.inl ⟨by decide, by decide⟩)
  exact ⟨r', hmissing, hmissing⟩

/-- **Packet 0 is never asked for**, not even when it is the first one missing. -/
theorem not_nacksMissing :
    ¬ ∀ (stream : ℕ → List UInt8) (buffer : Memory) (es : List ReceiverPoll) (r : Receiver),
      Run (readWriteLoop zlibCrc32) (fun _ _ _ => True) (Receiver.init buffer) es r →
      ∀ (i : ℕ) (ds : List Delivery) (d : Delivery) (r' : Receiver),
        AnswersBroken zlibCrc32 stream r i ds d r' → NacksMissing r r' i := by
  intro h
  obtain ⟨r', hanswer⟩ := answersBroken_init readsBroken_zero (by decide +kernel)
  have hsent := hanswer.sent
  have hmissing := h countingStream _ [] _ Run.nil 0 [] _ r' hanswer
  rw [NacksMissing, hsent] at hmissing
  exact absurd hmissing (by decide)

end TrtpNetwork
