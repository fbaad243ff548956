import TrtpNetwork.Receiver.Bookkeeping

/-!
# Packets that are not data

`read_write_loop` tells apart what it receives by two tests.  A NACK is treated like a packet that
could not be decoded, and a packet of length 0 ends the transfer if it is a data packet.  Everything
else is stored: an ACK and a packet of the type the enumeration does not name go to the slot of
their sequence number, occupy it, and are acknowledged.

`WindowState` is the part of the state this is about, `KeepsOut` that an iteration keeps a packet
out of it, and `keepsOut_iff_of_run` says for every reachable state which packets that are not data
are kept out: NACKs, and those that happen to address a slot which is taken.

The comparison is with the same iteration without the datagram, so that the flush and the ACK that
an iteration owes to earlier packets do not count.  Such a flush has an outcome for every reachable
table of packets (`Flushable`).  A table of pointers may have a dangling one, after a flush that
left it in two slots; the two iterations flush the same slots then, too.
-/

namespace TrtpNetwork

/-! ## What is to be left alone -/

/-- The receive window, the ACK that is pending, the output and the ACKs sent. -/
structure WindowState where
  listPkt : Slots Pkt
  baseR : ℤ
  freePlace : ℤ
  partialAck : ℤ
  stdout : List (List UInt8)
  /-- The numbers of the ACKs that were written, in order. -/
  acks : List UInt8

/-- The numbers of the packets of a type among these datagrams, in order. -/
def sentNumbers (type : Ptypes) (written : List (Pkt × List UInt8)) : List UInt8 :=
  (written.filter fun w => w.1.type = type).map fun w => w.1.seqnum

/-- The part of the state that belongs to the receive window. -/
def Receiver.windowState (r : Receiver) : WindowState where
  listPkt := r.listPkt
  baseR := r.baseR
  freePlace := r.freePlace
  partialAck := r.partialAck
  stdout := r.stdout
  acks := sentNumbers .ack r.written

/-- The same iteration with nothing to read. -/
def ReceiverPoll.withoutDatagram (e : ReceiverPoll) : ReceiverPoll := { e with readable := .idle }

/-- The packet that is read is kept out of the window: the input half leaves the window as it was,
and the iteration ends with the window in which it ends without the datagram. -/
structure KeepsOut (crc32 : List UInt8 → UInt32) (r : Receiver) (e : ReceiverPoll) : Prop where
  received : ∃ m, receive crc32 r e = some m ∧ m.windowState = r.windowState
  iteration : ∃ r' r₀, readWriteLoop crc32 r e = some r' ∧
    readWriteLoop crc32 r e.withoutDatagram = some r₀ ∧ r'.windowState = r₀.windowState

variable {crc32 : List UInt8 → UInt32} {r m r' : Receiver} {e : ReceiverPoll}

/-! ## Tables that can be flushed -/

/-- Nothing lies behind the window, and every payload can be read. -/
structure Flushable (t : Slots Pkt) : Prop where
  behind : ∀ k, realWindow ≤ k → t k = none
  readable : ∀ k pkt, t k = some pkt → pkt.content ≠ none

/-- A packet that is stored was accepted. -/
theorem handlePacket_pktOk_cases {decoded : PktStatusCode × Pkt}
    (h : handlePacket r decoded = some m) :
    LeavesTable r m ∨ decoded.1 = .pktOk ∧ ∃ k, FillsSlot r m k decoded.2 := by
  obtain hleaves | hfills := handlePacket_cases h
  · exact Or.inl hleaves
  · by_cases hok : decoded.1 = .pktOk
    · exact Or.inr ⟨hok, hfills⟩
    · rw [handlePacket, if_pos (Or.inl hok)] at h
      obtain rfl := Option.some.inj h
      exact Or.inl ⟨⟨Or.inl rfl, rfl⟩, rfl, rfl⟩

theorem Flushable.receive (h : Flushable r.listPkt) (hm : receive crc32 r e = some m) :
    Flushable m.listPkt := by
  rw [TrtpNetwork.receive] at hm
  split at hm
  · obtain rfl := Option.some.inj hm
    exact h
  · obtain hleaves | ⟨hok, k, hfills⟩ := handlePacket_pktOk_cases hm
    · rw [hleaves.table]
      exact h
    · rw [hfills.table]
      refine ⟨fun j hj => ?_, fun j pkt hj => ?_⟩
      · have hk := hfills.inWindow
        rw [Function.update_of_ne (by omega)]
        exact h.behind j hj
      · rcases eq_some_of_update_some hj with ⟨-, rfl⟩ | ⟨-, hj⟩
        · exact content_ne_none_of_pktOk crc32 hok
        · exact h.readable j pkt hj
  · obtain rfl := Option.some.inj hm
    exact h

/-- The payloads of leading slots that are taken. -/
theorem Flushable.exists_bytes {t : Slots Pkt} (h : Flushable t) {n : ℕ}
    (hfull : ∀ i < n, t i ≠ none) : ∃ bytes : ℕ → List UInt8,
      ∀ i < n, ∃ pkt, t i = some pkt ∧ pkt.content = some (bytes i) := by
  have hbytes : ∀ i, ∃ bytes : List UInt8, i < n →
      ∃ pkt, t i = some pkt ∧ pkt.content = some bytes := by
    intro i
    by_cases hi : i < n
    · obtain ⟨pkt, hpkt⟩ := Option.ne_none_iff_exists'.mp (hfull i hi)
      obtain ⟨bytes, hcontent⟩ := Option.ne_none_iff_exists'.mp (h.readable i pkt hpkt)
      exact ⟨bytes, fun _ => ⟨pkt, hpkt, hcontent⟩⟩
    · exact ⟨[], fun h => absurd h hi⟩
  choose bytes hrun using hbytes
  exact ⟨bytes, hrun⟩

/-- The leading run of such a table and its payloads. -/
theorem Flushable.exists_run {t : Slots Pkt} (h : Flushable t) :
    ∃ (s : ℕ) (bytes : ℕ → List UInt8), firstEmptyPlace t = some s ∧
      ∀ i < s, ∃ pkt, t i = some pkt ∧ pkt.content = some (bytes i) := by
  obtain ⟨s, -, hs⟩ := exists_firstEmptyPlace (h.behind realWindow (Nat.le_refl _))
  obtain ⟨-, -, hfull⟩ := firstEmptyPlace_eq_some_iff.mp hs
  obtain ⟨bytes, hrun⟩ := h.exists_bytes hfull
  exact ⟨s, bytes, hs, hrun⟩

theorem Flushable.flushedTable {t : Slots Pkt} (h : Flushable t) {s : ℕ}
    (hs : firstEmptyPlace t = some s) : Flushable (flushedTable t s) := by
  have hle : s ≤ realWindow := firstEmptyPlace_le (h.behind _ (Nat.le_refl _)) hs
  refine ⟨fun k hk => ?_, fun k pkt hk => ?_⟩
  · rw [flushedTable_apply, if_neg (by omega), if_neg (by omega)]
    exact h.behind k hk
  · rw [flushedTable_apply] at hk
    split at hk
    · exact h.readable _ pkt hk
    · split at hk
      · cases hk
      · exact h.readable _ pkt hk

theorem Flushable.reply (h : Flushable m.listPkt) (hstep : reply crc32 m e = some r') :
    Flushable r'.listPkt := by
  obtain ⟨-, status, rfl⟩ | ⟨-, q, hq, hack⟩ := reply_cases crc32 hstep
  · exact h
  · have hq' : q.listPkt = m.listPkt ∧ q.nack = -1 := by
      obtain ⟨hnack, rfl⟩ | ⟨-, rfl⟩ := sendNack_cases crc32 hq
      · exact ⟨rfl, hnack⟩
      · exact ⟨rfl, rfl⟩
    obtain ⟨-, rfl⟩ | ⟨-, s, bytes, hs, -, rfl⟩ := sendAck_cases crc32 hack hq'.2
    · rw [hq'.1]
      exact h
    · rw [hq'.1] at hs
      simp only [hq'.1]
      exact h.flushedTable hs

/-- **One iteration.** -/
theorem flushable_step (h : Flushable r.listPkt) (hstep : readWriteLoop crc32 r e = some r') :
    Flushable r'.listPkt :=
  readWriteLoop_rule crc32 (P := fun r => Flushable r.listPkt) (fun _ _ hr hm => hr.receive hm)
    (fun _ _ hm hrep => hm.reply hrep) h hstep

/-- **Every reachable table of packets can be flushed.**  Of the pointers this is true as long as no
flush has left one in two slots (`rel_readWriteLoop`). -/
theorem flushable_of_run {buffer : Memory} {es : List ReceiverPoll}
    {ok : List ReceiverPoll → Receiver → ReceiverPoll → Prop}
    (hrun : Run (readWriteLoop crc32) ok (Receiver.init buffer) es r) : Flushable r.listPkt := by
  refine hrun.invariant (I := fun _ r => Flushable r.listPkt)
    ⟨fun _ _ => rfl, fun k pkt hk => by cases hk⟩ ?_
  intro es r e r' h _ hstep
  exact flushable_step h hstep

/-! ## The output half -/

/-- A NACK is no ACK. -/
theorem exists_sendNack (crc32 : List UInt8 → UInt32) (r : Receiver) (fresh : Pkt) :
    ∃ q, sendNack crc32 r fresh = some q ∧ q.nack = -1 ∧ q.windowState = r.windowState := by
  by_cases hnack : r.nack = -1
  · exact ⟨r, sendNack_of_idle crc32 hnack fresh, hnack, rfl⟩
  · rw [sendNack, if_pos hnack, sendReply_eq crc32 r fresh r.nack (Or.inr ⟨rfl, rfl⟩)]
    refine ⟨_, rfl, rfl, ?_⟩
    simp [Receiver.windowState, sentNumbers, controlPkt]

/-- **The flush and its ACK** are a matter of the window. -/
theorem exists_sendAck_agree (crc32 : List UInt8 → UInt32) (h : Flushable r.listPkt)
    (hsame : m.windowState = r.windowState) (hr : r.nack = -1) (hm : m.nack = -1)
    (fresh fresh' : Pkt) :
    ∃ m' r', sendAck crc32 m fresh = some m' ∧ sendAck crc32 r fresh' = some r' ∧
      m'.windowState = r'.windowState := by
  obtain ⟨htable, hbase, hplace, hpartial', hstdout, hacks⟩ := WindowState.mk.inj hsame
  by_cases hack : r.partialAck = -1
  · exact ⟨m, r, sendAck_of_idle crc32 (hpartial'.trans hack) fresh,
      sendAck_of_idle crc32 hack fresh', hsame⟩
  · obtain ⟨s, bytes, hs, hrun⟩ := h.exists_run
    have hack' : m.partialAck ≠ -1 := by rwa [hpartial']
    have hs' : firstEmptyPlace m.listPkt = some s := by rwa [htable]
    have hrun' : ∀ i < s, ∃ pkt, m.listPkt i = some pkt ∧ pkt.content = some (bytes i) := by
      rwa [htable]
    refine ⟨_, _, sendAck_eq crc32 hack' hm hs' hrun' fresh,
      sendAck_eq crc32 hack hr hs hrun fresh', ?_⟩
    have hacks' : sentNumbers .ack m.written = sentNumbers .ack r.written := hacks
    unfold sentNumbers at hacks'
    simp [Receiver.windowState, sentNumbers, ackPkt, controlPkt, htable, hbase, hplace, hpartial',
      hstdout, hacks']

/-- **The output half** does the same to two states with the same window. -/
theorem exists_reply_agree (crc32 : List UInt8 → UInt32) (h : Flushable r.listPkt)
    (hsame : m.windowState = r.windowState) (e : ReceiverPoll) :
    ∃ m' r', reply crc32 m e = some m' ∧ reply crc32 r e.withoutDatagram = some r' ∧
      m'.windowState = r'.windowState := by
  unfold reply
  have hwritable : e.withoutDatagram.writable = e.writable := rfl
  rw [hwritable]
  cases e.writable with
  | idle => exact ⟨m, r, rfl, rfl, hsame⟩
  | other => exact ⟨_, _, rfl, rfl, hsame⟩
  | pollout =>
    obtain ⟨q, hq, hqnack, hqsame⟩ := exists_sendNack crc32 m e.freshNack
    obtain ⟨q₀, hq₀, hq₀nack, hq₀same⟩ := exists_sendNack crc32 r e.withoutDatagram.freshNack
    have htable : q₀.listPkt = r.listPkt := congrArg WindowState.listPkt hq₀same
    have hflush : Flushable q₀.listPkt := by rwa [htable]
    obtain ⟨m', r', hm', hr', hsame'⟩ := exists_sendAck_agree crc32 hflush
      (hqsame.trans (hsame.trans hq₀same.symm)) hq₀nack hqnack e.freshAck
      e.withoutDatagram.freshAck
    refine ⟨m', r', ?_, ?_, hsame'⟩
    · rw [hq]
      exact hm'
    · rw [hq₀]
      exact hr'

/-! ## Packets that are not data -/

/-- The packet is left out of the window: a NACK, or one whose slot is taken. -/
def LeftOut (r : Receiver) (pkt : Pkt) : Prop :=
  pkt.type = .nack ∨ AddressesTaken r pkt.seqnum.toNat

/-- An accepted packet that is neither data nor a NACK is placed like data. -/
theorem handlePacket_of_other {decoded : PktStatusCode × Pkt} (hok : decoded.1 = .pktOk)
    (hdata : decoded.2.type ≠ .data) (hnack : decoded.2.type ≠ .nack) (r : Receiver) :
    ∃ t, handlePacket r decoded = placePacket { r with lastTimePkt := t } decoded.2 := by
  have hgood : ¬ (decoded.1 ≠ .pktOk ∨ decoded.2.type = .nack) := by
    rintro (hbad | hbad)
    · exact hbad hok
    · exact hnack hbad
  rw [handlePacket, if_neg hgood, goodPacket]
  have hopen : ¬ (decoded.2.length = 0 ∧ decoded.2.type = .data) := fun h => hdata h.2
  simp only [if_neg hopen]
  by_cases ht : decoded.2.timestamp > r.lastTimePkt
  · exact ⟨decoded.2.timestamp, by rw [if_pos ht]⟩
  · exact ⟨r.lastTimePkt, by rw [if_neg ht]⟩

/-- The number of a packet is its own remainder. -/
theorem addressesTaken_iff (r : Receiver) (pkt : Pkt) :
    AddressesTaken r pkt.seqnum.toNat ↔ (pkt.seqnum.toNat = 0 → r.baseR = 0) ∧
      ∃ k, slotIndex pkt.seqnum.toNat (if pkt.seqnum.toNat = 0 then 0 else r.baseR) = some k ∧
        r.listPkt k ≠ none := by
  have hmod : pkt.seqnum.toNat % 256 = pkt.seqnum.toNat := Nat.mod_eq_of_lt pkt.seqnum.toNat_lt
  unfold AddressesTaken
  rw [hmod]
  refine and_congr_right fun hzero => ?_
  by_cases h0 : pkt.seqnum.toNat = 0
  · rw [if_pos h0, hzero h0]
    rfl
  · rw [if_neg h0]
    rfl

/-- **Placing a packet leaves the window as it was** exactly if its slot is taken and number 0 does
not reset `base_r`. -/
theorem placePacket_windowState_iff (r : Receiver) (pkt : Pkt) :
    (∃ m, placePacket r pkt = some m ∧ m.windowState = r.windowState) ↔
      AddressesTaken r pkt.seqnum.toNat := by
  rw [addressesTaken_iff]
  constructor
  · rintro ⟨m, hm, hsame⟩
    obtain ⟨htable, hbase, -⟩ := WindowState.mk.inj hsame
    obtain ⟨k, hk, ⟨hfree, rfl⟩ | ⟨htaken, rfl⟩⟩ := placePacket_cases hm
    · -- a stored packet is in the table
      have hslot := congrFun htable k
      simp only [Function.update_self, hfree] at hslot
      cases hslot
    · refine ⟨fun h0 => ?_, k, hk, htaken⟩
      have hreset : (if pkt.seqnum.toNat = 0 then (0 : ℤ) else r.baseR) = r.baseR := hbase
      rw [if_pos h0] at hreset
      exact hreset.symm
  · rintro ⟨hzero, k, hk, htaken⟩
    refine ⟨_, placePacket_of_taken hk htaken, ?_⟩
    have hbase : (if pkt.seqnum.toNat = 0 then (0 : ℤ) else r.baseR) = r.baseR := by
      split
      · exact (hzero (by assumption)).symm
      · rfl
    simp [Receiver.windowState, hbase]

/-- **The input half leaves the window as it was** exactly for the packets that are left out. -/
theorem receive_windowState_iff {result : ReadResult} (hread : e.readable = .pollin result)
    (hok : (decodeRead crc32 r.buffer result e.beyond e.freshRcv).1 = .pktOk)
    (hdata : (decodeRead crc32 r.buffer result e.beyond e.freshRcv).2.type ≠ .data) :
    (∃ m, receive crc32 r e = some m ∧ m.windowState = r.windowState) ↔
      LeftOut r (decodeRead crc32 r.buffer result e.beyond e.freshRcv).2 := by
  rw [receive, hread]
  simp only
  by_cases hnack : (decodeRead crc32 r.buffer result e.beyond e.freshRcv).2.type = .nack
  · rw [handlePacket, if_pos (Or.inr hnack)]
    exact iff_of_true ⟨_, rfl, rfl⟩ (Or.inl hnack)
  · obtain ⟨t, ht⟩ := handlePacket_of_other hok hdata hnack
      { r with buffer := readInto r.buffer result }
    have hplace := placePacket_windowState_iff
      { r with buffer := readInto r.buffer result, lastTimePkt := t }
      (decodeRead crc32 r.buffer result e.beyond e.freshRcv).2
    rw [ht, LeftOut, or_iff_right hnack]
    exact hplace

/-- Such an input half does not end the transfer. -/
theorem status_of_receive_other {result : ReadResult} (hread : e.readable = .pollin result)
    (hok : (decodeRead crc32 r.buffer result e.beyond e.freshRcv).1 = .pktOk)
    (hdata : (decodeRead crc32 r.buffer result e.beyond e.freshRcv).2.type ≠ .data)
    (hm : receive crc32 r e = some m) : m.status = r.status := by
  rw [receive, hread] at hm
  simp only at hm
  by_cases hnack : (decodeRead crc32 r.buffer result e.beyond e.freshRcv).2.type = .nack
  · rw [handlePacket, if_pos (Or.inr hnack)] at hm
    obtain rfl := Option.some.inj hm
    rfl
  · obtain ⟨t, ht⟩ := handlePacket_of_other hok hdata hnack
      { r with buffer := readInto r.buffer result }
    rw [ht] at hm
    obtain ⟨k, -, ⟨-, rfl⟩ | ⟨-, rfl⟩⟩ := placePacket_cases hm <;> rfl

/-- **Which packets other than data are kept out of the receive window.**  In every reachable state
and for every accepted packet that is not data: exactly NACKs, and packets whose slot is taken and
whose number does not reset `base_r`. -/
theorem keepsOut_iff_of_run (crc32 : List UInt8 → UInt32) (buffer : Memory)
    (es : List ReceiverPoll) (r : Receiver)
    (hrun : Run (readWriteLoop crc32) (fun _ _ _ => True) (Receiver.init buffer) es r)
    (hrunning : r.status = .running) (e : ReceiverPoll) (result : ReadResult)
    (hread : e.readable = .pollin result)
    (hok : (decodeRead crc32 r.buffer result e.beyond e.freshRcv).1 = .pktOk)
    (hdata : (decodeRead crc32 r.buffer result e.beyond e.freshRcv).2.type ≠ .data) :
    KeepsOut crc32 r e ↔ LeftOut r (decodeRead crc32 r.buffer result e.beyond e.freshRcv).2 := by
  rw [← receive_windowState_iff hread hok hdata]
  refine ⟨fun h => h.received, fun h => ⟨h, ?_⟩⟩
  obtain ⟨m, hm, hsame⟩ := h
  have hstatus := status_of_receive_other hread hok hdata hm
  obtain ⟨m', r₀, hm', hr₀, hsame'⟩ := exists_reply_agree crc32 (flushable_of_run hrun) hsame e
  refine ⟨m', r₀, ?_, ?_, hsame'⟩
  · rw [readWriteLoop_of_receive crc32 hrunning hm (by rw [hstatus, hrunning]; decide)]
    exact hm'
  · have hidle : receive crc32 r e.withoutDatagram = some r := rfl
    rw [readWriteLoop_of_receive crc32 hrunning hidle (by rw [hrunning]; decide)]
    exact hr₀

/-- A packet without payload, of any type, for packet 0. -/
def controlPoll (type : Ptypes) : ReceiverPoll where
  readable := .pollin (.bytes (encoding zlibCrc32 (controlPkt blankPkt type 0 realWindow 0) []))
  writable := .pollout
  beyond := fun _ => 0
  freshRcv := blankPkt
  freshNack := blankPkt
  freshAck := blankPkt

theorem decodeRead_controlPoll (type : Ptypes) (r : Receiver) :
    decodeRead zlibCrc32 r.buffer
        (.bytes (encoding zlibCrc32 (controlPkt blankPkt type 0 realWindow 0) []))
        (controlPoll type).beyond (controlPoll type).freshRcv =
      (.pktOk, decodedPkt zlibCrc32 true (controlPkt blankPkt type 0 realWindow 0) [] blankPkt) :=
  decodeRead_encoding zlibCrc32 rfl rfl (Nat.zero_le _) r.buffer _ _

/-- A NACK in the first iteration is kept out. -/
theorem keepsOut_nack : KeepsOut zlibCrc32 (Receiver.init fun _ => 0) (controlPoll .nack) := by
  have hdec := decodeRead_controlPoll .nack (Receiver.init fun _ => 0)
  refine (keepsOut_iff_of_run zlibCrc32 _ [] _ Run.nil rfl (controlPoll .nack) _ rfl ?_ ?_).mpr
    (Or.inl ?_) <;> rw [hdec]
  · decide
  · rfl

/-- **An ACK is taken for a packet of the stream**: it is stored in slot 0. -/
theorem not_keepsOut :
    ¬ ∀ (buffer : Memory) (es : List ReceiverPoll) (r : Receiver),
      Run (readWriteLoop zlibCrc32) (fun _ _ _ => True) (Receiver.init buffer) es r →
      r.status = .running → ∀ (e : ReceiverPoll) (result : ReadResult),
        e.readable = .pollin result →
        (decodeRead zlibCrc32 r.buffer result e.beyond e.freshRcv).1 = .pktOk →
        (decodeRead zlibCrc32 r.buffer result e.beyond e.freshRcv).2.type ≠ .data →
        KeepsOut zlibCrc32 r e := by
  intro h
  have hdec := decodeRead_controlPoll .ack (Receiver.init fun _ => 0)
  have hkeeps := h (fun _ => 0) [] _ Run.nil rfl (controlPoll .ack) _ rfl (by rw [hdec])
    (by rw [hdec]; decide)
  obtain ⟨m, hm, hsame⟩ := hkeeps.received
  have hstored : (receive zlibCrc32 (Receiver.init fun _ => 0) (controlPoll .ack)).map
      (fun m => m.freePlace) = some 3 := by
    decide +kernel
  rw [hm, Option.map_some] at hstored
  have hplace : m.freePlace = 4 := congrArg WindowState.freePlace hsame
  rw [hplace] at hstored
  cases hstored

end TrtpNetwork
