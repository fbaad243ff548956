import TrtpNetwork.Receiver.InOrderOutput
import Mathlib.Tactic.IntervalCases

/-!
# What the receiver keeps count of

Two variables of `read_write_loop` describe its table: `base_r`, from which the index of a slot is
computed, and `free_place`, which goes out with every reply as the window.  Nothing is assumed here
about what is read: the datagrams may be of any stream or of none, and decode or not.

* `base_r` is a remainder, `0 ≤ base_r < realWindow` in every reachable state, and a sequence number
  is one of 256.  Their difference can be negative, and so is C's remainder then: the index is in
  range exactly for number 0, before which `base_r` is reset, and for numbers not below `base_r`
  (`indexInRange_of_run`).
* `free_place` counts the `NULL` slots as long as no flush leaves a packet behind in the last slot
  (`advertisesFree_of_run`).  Both are changed by one when a packet is stored.  The flush adds the
  length of the leading run, and the shift frees as many slots only if it reaches the last one.
-/

namespace TrtpNetwork

variable (crc32 : List UInt8 → UInt32)

/-! ## The index of a slot -/

/-- The index computed for a packet with this number, after the reset for number 0, is that of a
slot of the window. -/
def IndexInRange (r : Receiver) (seqnum : ℕ) : Prop :=
  ∃ k < realWindow, slotIndex seqnum (if seqnum = 0 then 0 else r.baseR) = some k

/-- `base_r` is a remainder. -/
def BaseInWindow (r : Receiver) : Prop := 0 ≤ r.baseR ∧ r.baseR < realWindow

variable {crc32} {r m r' : Receiver} {e : ReceiverPoll}

theorem BaseInWindow.receive (h : BaseInWindow r) (hm : receive crc32 r e = some m) :
    BaseInWindow m := by
  unfold BaseInWindow at *
  rcases (receives_of_receive crc32 hm).base with hbase | hbase <;> rw [hbase]
  · exact h
  · exact ⟨Int.le_refl 0, by decide⟩

theorem BaseInWindow.sendNack (h : BaseInWindow r) {fresh : Pkt}
    (hstep : sendNack crc32 r fresh = some r') : BaseInWindow r' ∧ r'.nack = -1 := by
  obtain ⟨hnack, rfl⟩ | ⟨-, rfl⟩ := sendNack_cases crc32 hstep
  · exact ⟨h, hnack⟩
  · exact ⟨h, rfl⟩

theorem BaseInWindow.sendAck (h : BaseInWindow r) (hnack : r.nack = -1) {fresh : Pkt}
    (hstep : sendAck crc32 r fresh = some r') : BaseInWindow r' := by
  obtain ⟨-, rfl⟩ | ⟨-, s, bytes, -, -, rfl⟩ := sendAck_cases crc32 hstep hnack
  · exact h
  · have hsum : 0 ≤ r.baseR + s := by
      have := h.1
      omega
    unfold BaseInWindow
    simp only
    split
    · exact ⟨Int.le_refl 0, by decide⟩
    · exact ⟨Int.tmod_nonneg _ hsum, Int.tmod_lt_of_pos _ (by decide)⟩

theorem BaseInWindow.reply (h : BaseInWindow r) (hrep : reply crc32 r e = some r') :
    BaseInWindow r' := by
  obtain ⟨-, status, rfl⟩ | ⟨-, q, hq, hack⟩ := reply_cases crc32 hrep
  · exact ⟨h.1, h.2⟩
  · obtain ⟨hbase, hnack⟩ := h.sendNack hq
    exact hbase.sendAck hnack hack

/-- **One iteration** keeps `base_r` a remainder. -/
theorem BaseInWindow.step (h : BaseInWindow r) (hstep : readWriteLoop crc32 r e = some r') :
    BaseInWindow r' :=
  readWriteLoop_rule crc32 (fun _ _ hr hm => hr.receive hm) (fun _ _ hm hrep => hm.reply hrep) h
    hstep

/-- The index is in range unless C's remainder is negative. -/
theorem indexInRange_iff_nonneg (seqnum : ℕ) :
    IndexInRange r seqnum ↔
      0 ≤ ((seqnum : ℤ) - (if seqnum = 0 then 0 else r.baseR)).tmod realWindow := by
  constructor
  · rintro ⟨k, -, hk⟩
    obtain ⟨-, hindex⟩ := slotIndex_eq_some hk
    omega
  · intro hnonneg
    have hk := slotIndex_of_nonneg hnonneg
    exact ⟨_, (slotIndex_eq_some hk).1, hk⟩

/-- C's remainder of a difference is negative when the difference is, here. -/
theorem BaseInWindow.indexInRange_iff (h : BaseInWindow r) (seqnum : ℕ) :
    IndexInRange r seqnum ↔ seqnum = 0 ∨ r.baseR ≤ seqnum := by
  obtain ⟨hlo, hhi⟩ := h
  rw [indexInRange_iff_nonneg]
  by_cases h0 : seqnum = 0
  · subst h0
    simp [realWindow]
  · rw [if_neg h0, or_iff_right h0]
    constructor
    · intro hnonneg
      by_contra hlt
      -- a difference between -3 and -1 is its own remainder
      have hneg : ((seqnum : ℤ) - r.baseR).tmod realWindow = (seqnum : ℤ) - r.baseR := by
        have habs : (r.baseR - seqnum).tmod realWindow = r.baseR - seqnum :=
          Int.tmod_eq_of_lt (by omega) (by omega)
        rw [← Int.neg_sub, Int.neg_tmod, habs]
      omega
    · intro hle
      exact Int.tmod_nonneg _ (by omega)

/-- **The index of a slot over whole runs.**  Whatever was read and whenever it was flushed, the
index of a packet is in the window if and only if its number is 0 or not below `base_r`. -/
theorem indexInRange_of_run (crc32 : List UInt8 → UInt32) (buffer : Memory)
    (es : List ReceiverPoll) (r : Receiver)
    (hrun : Run (readWriteLoop crc32) (fun _ _ _ => True) (Receiver.init buffer) es r) (pkt : Pkt) :
    IndexInRange r pkt.seqnum.toNat ↔
      pkt.seqnum.toNat = 0 ∨ r.baseR ≤ pkt.seqnum.toNat := by
  have hbase : BaseInWindow r := by
    have hinit : BaseInWindow (Receiver.init buffer) :=
      ⟨Int.le_refl 0, show (0 : ℤ) < realWindow by decide⟩
    refine hrun.invariant (I := fun _ r => BaseInWindow r) hinit ?_
    intro es r e r' h _ hstep
    exact h.step hstep
  exact hbase.indexInRange_iff _

/-- Packets 0, 1 and 2 of the counting stream, each flushed when it is read. -/
def threeFlushed : List ReceiverPoll :=
  (List.range 3).map fun i => (streamDelivery zlibCrc32 countingStream blankPkt i .pollout).1

/-- With `base_r` at 3, the index of another copy of packet 2 is `(2 - 3) % 4 = -1`. -/
theorem not_indexInRange :
    ¬ ∀ (buffer : Memory) (es : List ReceiverPoll) (r : Receiver),
      Run (readWriteLoop zlibCrc32) (fun _ _ _ => True) (Receiver.init buffer) es r →
      ∀ (result : ReadResult) (beyond : Memory) (fresh : Pkt),
        (decodeRead zlibCrc32 r.buffer result beyond fresh).1 = .pktOk →
        IndexInRange r (decodeRead zlibCrc32 r.buffer result beyond fresh).2.seqnum.toNat := by
  intro h
  obtain ⟨r, hrun, hbase⟩ := exists_run_of_follow (readWriteLoop zlibCrc32) (fun _ _ _ => True)
    (Receiver.init fun _ => 0) threeFlushed Receiver.baseR (show _ = some 3 by decide +kernel)
  obtain ⟨hok, -, hnum, -⟩ := (readsPacket_streamDelivery zlibCrc32 countingStream (by decide)
    .pollout r : ReadsPacket zlibCrc32 countingStream r
      (streamDelivery zlibCrc32 countingStream blankPkt 2 .pollout)) _ rfl
  have hrange := h _ _ r hrun _ _ _ hok
  rw [hnum, indexInRange_iff_nonneg, if_neg (by decide), hbase] at hrange
  exact absurd hrange (by decide)

/-- The general result in the same state: in range are number 0 and the numbers from 3 on. -/
theorem indexInRange_threeFlushed :
    ∃ r : Receiver, r.baseR = 3 ∧ (∀ pkt : Pkt, IndexInRange r pkt.seqnum.toNat ↔
      pkt.seqnum.toNat = 0 ∨ 3 ≤ pkt.seqnum.toNat) := by
  obtain ⟨r, hrun, hbase⟩ := exists_run_of_follow (readWriteLoop zlibCrc32) (fun _ _ _ => True)
    (Receiver.init fun _ => 0) threeFlushed Receiver.baseR (show _ = some 3 by decide +kernel)
  refine ⟨r, hbase, fun pkt => ?_⟩
  have hiff := indexInRange_of_run zlibCrc32 _ _ r hrun pkt
  rw [hbase] at hiff
  rw [hiff]
  omega

/-! ## The number of free slots -/

/-- `free_place` is the number of `NULL` slots, and nothing lies behind the window. -/
structure CountsFree (r : Receiver) : Prop where
  count : r.freePlace = freeCount r.listPkt realWindow
  behind : ∀ k, realWindow ≤ k → r.listPkt k = none

/-- The shift behind a leading run of length `s` leaves no packet in a slot it came from. -/
def ShiftsAll (listPkt : Slots Pkt) (s : ℕ) : Prop :=
  s = 0 ∨ s = realWindow ∨ listPkt (realWindow - 1) = none

/-- If the iteration flushes the table, the shift takes every packet along. -/
def FlushesWhole (crc32 : List UInt8 → UInt32) (r : Receiver) (e : ReceiverPoll) : Prop :=
  r.status = .running → e.writable = .pollout → ∀ m, receive crc32 r e = some m →
    m.status ≠ .endOfData → m.partialAck ≠ -1 → ∀ s, firstEmptyPlace m.listPkt = some s →
      ShiftsAll m.listPkt s

instance (crc32 : List UInt8 → UInt32) (r : Receiver) (e : ReceiverPoll) :
    Decidable (FlushesWhole crc32 r e) :=
  inferInstanceAs (Decidable (r.status = .running → e.writable = .pollout →
    ∀ m ∈ receive crc32 r e, m.status ≠ .endOfData → m.partialAck ≠ -1 →
      ∀ s ∈ firstEmptyPlace m.listPkt,
        s = 0 ∨ s = realWindow ∨ m.listPkt (realWindow - 1) = none))

/-- The replies of an iteration carry the number of free slots: a NACK that of the table before the
flush, an ACK that of the table after it. -/
def AdvertisesFree (crc32 : List UInt8 → UInt32) (r r' : Receiver) (e : ReceiverPoll) : Prop :=
  ∀ m, receive crc32 r e = some m → ∀ w ∈ r'.written.drop r.written.length,
    w.2 = encoding crc32 w.1 [] ∧
      w.1.window.val =
        freeCount (if w.1.type = .nack then m.listPkt else r'.listPkt) realWindow

theorem countsFree_init (buffer : Memory) : CountsFree (Receiver.init buffer) where
  count := rfl
  behind := fun _ _ => rfl

/-- A leading run lies within the window when nothing lies behind it. -/
theorem CountsFree.leading_run (h : CountsFree r) {s : ℕ}
    (hs : firstEmptyPlace r.listPkt = some s) : s ≤ realWindow :=
  firstEmptyPlace_le (h.behind _ (Nat.le_refl _)) hs

/-- **What a flush does to the count.**  The table after it has as many more free slots as the
leading run was long if and only if the shift took every packet along. -/
theorem CountsFree.freeCount_flushedTable_iff (h : CountsFree r) {s : ℕ}
    (hs : firstEmptyPlace r.listPkt = some s) :
    freeCount (flushedTable r.listPkt s) realWindow = freeCount r.listPkt realWindow + s ↔
      ShiftsAll r.listPkt s := by
  have hs4 : s ≤ 4 := h.leading_run hs
  obtain ⟨-, hfree, hfull⟩ := firstEmptyPlace_eq_some_iff.mp hs
  unfold ShiftsAll realWindow
  simp only [freeCount_succ, freeCount_zero, flushedTable_apply, realWindow]
  -- one slot after the other, for each length of the run
  interval_cases s
  · simp
  · have h0 := hfull 0 (by decide)
    simp [h0, hfree]
  · have h0 := hfull 0 (by decide)
    have h1 := hfull 1 (by decide)
    by_cases h3 : r.listPkt 3 = none <;> simp [h0, h1, hfree, h3]
  · have h0 := hfull 0 (by decide)
    have h1 := hfull 1 (by decide)
    have h2 := hfull 2 (by decide)
    simp [h0, h1, h2, hfree]
  · have h0 := hfull 0 (by decide)
    have h1 := hfull 1 (by decide)
    have h2 := hfull 2 (by decide)
    have h3 := hfull 3 (by decide)
    simp [h0, h1, h2, h3]

/-- Nothing gets behind the window by a flush. -/
theorem CountsFree.flushedTable_behind (h : CountsFree r) {s : ℕ}
    (hs : firstEmptyPlace r.listPkt = some s) {k : ℕ} (hk : realWindow ≤ k) :
    flushedTable r.listPkt s k = none := by
  have hs4 := h.leading_run hs
  rw [flushedTable_apply, if_neg (by omega), if_neg (by omega)]
  exact h.behind k hk

/-- **Storing a packet** takes one from the slots and one from the counter. -/
theorem CountsFree.receive (h : CountsFree r) (hm : receive crc32 r e = some m) :
    CountsFree m := by
  obtain hleaves | ⟨k, pkt, hfills⟩ := receive_cases crc32 hm
  · exact ⟨by rw [hleaves.freePlace, hleaves.table, h.count],
      fun k hk => by rw [hleaves.table, h.behind k hk]⟩
  · have hk := hfills.inWindow
    refine ⟨?_, fun j hj => ?_⟩
    · have hcount := freeCount_update pkt hk hfills.free
      rw [hfills.freePlace, hfills.table, h.count, ← hcount]
      omega
    · rw [hfills.table, Function.update_of_ne (by omega)]
      exact h.behind j hj

theorem CountsFree.sendNack (h : CountsFree m) {fresh : Pkt} {q : Receiver}
    (hq : sendNack crc32 m fresh = some q) :
    CountsFree q ∧ q.nack = -1 ∧ q.partialAck = m.partialAck ∧ q.listPkt = m.listPkt ∧
      ∃ nacks, q.written = m.written ++ nacks ∧ ∀ w ∈ nacks, w.1.type = .nack ∧
        w.2 = encoding crc32 w.1 [] ∧ w.1.window.val = freeCount m.listPkt realWindow := by
  obtain ⟨hnack, rfl⟩ | ⟨-, rfl⟩ := sendNack_cases crc32 hq
  · exact ⟨h, hnack, rfl, rfl, [], (List.append_nil _).symm, fun w hw => by cases hw⟩
  · refine ⟨⟨h.count, h.behind⟩, rfl, rfl, rfl, _, rfl, fun w hw => ?_⟩
    obtain rfl := List.mem_singleton.mp hw
    have hle := freeCount_le m.listPkt realWindow
    have hval : ((nackPkt m fresh).window.val : ℤ) = m.freePlace :=
      val_windowField (by rw [h.count]; omega) (by rw [h.count]; unfold realWindow at *; omega)
    exact ⟨rfl, rfl, Int.ofNat.inj (hval.trans h.count)⟩

/-- **The flush** keeps the counter right, and its ACK true, if and only if the shift takes every
packet along. -/
theorem CountsFree.sendAck (h : CountsFree m) (hnack : m.nack = -1) {fresh : Pkt}
    (hstep : sendAck crc32 m fresh = some r') :
    (∀ k, realWindow ≤ k → r'.listPkt k = none) ∧
    (r'.freePlace = freeCount r'.listPkt realWindow ↔
      (m.partialAck ≠ -1 → ∀ s, firstEmptyPlace m.listPkt = some s → ShiftsAll m.listPkt s)) ∧
    ∃ acks, r'.written = m.written ++ acks ∧ ∀ w ∈ acks, w.1.type = .ack ∧
      w.2 = encoding crc32 w.1 [] ∧ (r'.freePlace = freeCount r'.listPkt realWindow →
        w.1.window.val = freeCount r'.listPkt realWindow) := by
  obtain ⟨hack, rfl⟩ | ⟨hack, s, bytes, hs, -, rfl⟩ := sendAck_cases crc32 hstep hnack
  · exact ⟨h.behind, iff_of_true h.count fun hne => absurd hack hne, [],
      (List.append_nil _).symm, fun w hw => by cases hw⟩
  · refine ⟨fun k hk => h.flushedTable_behind hs hk, ?_, _, rfl, fun w hw => ?_⟩
    · have hiff := h.freeCount_flushedTable_iff hs
      constructor
      · intro hcount _ s' hs'
        obtain rfl := Option.some.inj (hs.symm.trans hs')
        simp only [h.count] at hcount
        exact hiff.mp (by exact_mod_cast hcount.symm)
      · intro hall
        simp only [h.count]
        exact_mod_cast (hiff.mpr (hall hack s hs)).symm
    · obtain rfl := List.mem_singleton.mp hw
      refine ⟨rfl, rfl, fun hcount => ?_⟩
      simp only at hcount
      have hle := freeCount_le (flushedTable m.listPkt s) realWindow
      have hval : ((ackPkt m fresh s).window.val : ℤ) = m.freePlace + s :=
        val_windowField (by rw [hcount]; omega) (by rw [hcount]; unfold realWindow at *; omega)
      exact Int.ofNat.inj (hval.trans hcount)

/-- **One iteration**: the counter stays right and the replies true if and only if the shift of the
flush, if there is one, takes every packet along. -/
theorem CountsFree.step (h : CountsFree r) (hstep : readWriteLoop crc32 r e = some r') :
    (∀ k, realWindow ≤ k → r'.listPkt k = none) ∧
    ((r'.freePlace = freeCount r'.listPkt realWindow ∧ AdvertisesFree crc32 r r' e) ↔
      FlushesWhole crc32 r e) := by
  obtain ⟨hidle, rfl⟩ | ⟨hrunning, m, hm, ⟨hend, rfl⟩ | ⟨hgoes, hrep⟩⟩ :=
    readWriteLoop_cases crc32 hstep
  · refine ⟨h.behind, iff_of_true ⟨h.count, ?_⟩ fun hrunning => absurd hrunning hidle⟩
    intro m _ w hw
    rw [List.drop_length] at hw
    cases hw
  · refine ⟨(h.receive hm).behind, iff_of_true ⟨(h.receive hm).count, ?_⟩ ?_⟩
    · intro m' _ w hw
      rw [(receives_of_receive crc32 hm).written, List.drop_length] at hw
      cases hw
    · intro _ _ m' hm' hgoes
      obtain rfl := Option.some.inj (hm.symm.trans hm')
      exact absurd hend hgoes
  · have hmid := h.receive hm
    have hwritten := (receives_of_receive crc32 hm).written
    obtain ⟨hout, status, rfl⟩ | ⟨hout, q, hq, hack⟩ := reply_cases crc32 hrep
    · refine ⟨hmid.behind, iff_of_true ⟨hmid.count, ?_⟩ fun _ he => absurd he hout⟩
      intro m' _ w hw
      simp only [hwritten, List.drop_length] at hw
      cases hw
    · obtain ⟨hcq, hnack, hpend, htable, nacks, hnacks, hnackvals⟩ := hmid.sendNack hq
      obtain ⟨hbehind, hcount, acks, hacks, hackvals⟩ := hcq.sendAck hnack hack
      rw [hpend, htable] at hcount
      refine ⟨hbehind, ?_, ?_⟩
      · rintro ⟨hright, -⟩ _ _ m' hm' _
        obtain rfl := Option.some.inj (hm.symm.trans hm')
        exact hcount.mp hright
      · intro hwhole
        have hright := hcount.mpr (hwhole hrunning hout m hm hgoes)
        refine ⟨hright, fun m' hm' w hw => ?_⟩
        obtain rfl := Option.some.inj (hm.symm.trans hm')
        rw [hacks, hnacks, hwritten, List.append_assoc, List.drop_left, List.mem_append] at hw
        rcases hw with hw | hw
        · obtain ⟨htype, hbytes, hval⟩ := hnackvals w hw
          rw [if_pos htype]
          exact ⟨hbytes, hval⟩
        · obtain ⟨htype, hbytes, hval⟩ := hackvals w hw
          rw [if_neg (by rw [htype]; decide)]
          exact ⟨hbytes, hval hright⟩

/-- **The advertised window over whole runs.**  In every run whose flushes take every packet along,
`free_place` is the number of free slots in every state, and an iteration from there keeps it so and
advertises it in all its replies if and only if it meets the condition itself. -/
theorem advertisesFree_of_run (crc32 : List UInt8 → UInt32) (buffer : Memory)
    (es : List ReceiverPoll) (r : Receiver)
    (hrun : Run (readWriteLoop crc32) (fun _ r e => FlushesWhole crc32 r e)
      (Receiver.init buffer) es r) :
    r.freePlace = freeCount r.listPkt realWindow ∧ 0 ≤ r.freePlace ∧ r.freePlace ≤ realWindow ∧
      ∀ e r', readWriteLoop crc32 r e = some r' →
        ((r'.freePlace = freeCount r'.listPkt realWindow ∧ AdvertisesFree crc32 r r' e) ↔
          FlushesWhole crc32 r e) := by
  have hinv : CountsFree r := by
    refine hrun.invariant (I := fun _ r => CountsFree r) (countsFree_init buffer) ?_
    intro es r e r' h hok hstep
    obtain ⟨hbehind, hiff⟩ := h.step hstep
    exact ⟨(hiff.mpr hok).1, hbehind⟩
  have hle := freeCount_le r.listPkt realWindow
  have hcount := hinv.count
  exact ⟨hcount, by omega, by omega, fun e r' hstep => (hinv.step hstep).2⟩

/-- Two packets in the wrong order and the flush of both. -/
theorem advertisesFree_swapped :
    ∃ r : Receiver, r.stdout = [[0], [1], [2]] ∧
      r.freePlace = freeCount r.listPkt realWindow := by
  obtain ⟨r, hrun, hout⟩ := exists_run_of_follow (readWriteLoop zlibCrc32)
    (fun _ r e => FlushesWhole zlibCrc32 r e) (Receiver.init fun _ => 0)
    (swappedDeliveries.map Prod.fst) Receiver.stdout
    (show _ = some [[0], [1], [2]] by decide +kernel)
  exact ⟨r, hout, (advertisesFree_of_run zlibCrc32 _ _ r hrun).1⟩

/-- **A packet left behind is not counted.**  Packet 3 in the last slot, then packet 0, written at
once: the counter says 3, and packet 3 is in two slots. -/
theorem not_advertisesFree :
    ¬ ∀ (buffer : Memory) (es : List ReceiverPoll) (r : Receiver),
      Run (readWriteLoop zlibCrc32) (fun _ _ _ => True) (Receiver.init buffer) es r →
      r.freePlace = freeCount r.listPkt realWindow := by
  intro h
  obtain ⟨r, hrun, hview⟩ := exists_run_of_follow (readWriteLoop zlibCrc32) (fun _ _ _ => True)
    (Receiver.init fun _ => 0) (holeDeliveries.map Prod.fst)
    (fun r => (r.freePlace, freeCount r.listPkt realWindow))
    (show _ = some (3, 2) by decide +kernel)
  obtain ⟨hplace, hslots⟩ := Prod.mk.inj hview
  have := h _ _ r hrun
  rw [hplace, hslots] at this
  exact absurd this (by decide)

end TrtpNetwork
