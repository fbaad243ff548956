import TrtpNetwork.Sender.Table

/-!
# The scan of the table stops inside it

For an ACK, `clear_and_fill_buffer` looks for the first packet of the table with
`while (listPkt[s] == NULL) s++`, a loop that has no bound and would read past the 50 slots of a
table without packets.  It never meets one, because slot 49 is never free when the loop is entered.

This rests on three functions together (`LastHeld`).  An ACK frees only a slot below `window`: it
is looked up there first, and the lookup in the whole table finds the same (`listPkt_deleteAcked`).
`window` only takes values a packet can announce, and those are at most 31.  A refill of at least
one slot puts a new packet in slot 49, and a refill of none leaves slot 49 alone; what the shift
does in between, or leaves out, does not matter for it.

`scanStops_of_run` is the result for every run, with the slots the refill writes
(`RefillsLast`).  In `scanStops_long` the run of free slots has length 27, and the shift copies
nothing.
-/

namespace TrtpNetwork

variable (crc32 : List UInt8 → UInt32)

/-- The state in which the iteration enters `clear_and_fill_buffer` after it read `ack`. -/
def beforeRefill (s : Sender) (e : SenderPoll) (ack : Pkt) : Option Sender :=
  deleteAcked { s with
    buffer := readBuffer s e
    base := ackedBase s ack.seqnum.toNat } ack.seqnum.toNat

/-- From `d` to `m` the slots `50 - n, …, 49` took new packets, and every other slot of the table
has the contents it had or those found `n` slots further on. -/
structure RefillsLast (d m : Sender) (n : ℕ) : Prop where
  seqnum : m.seqnum = d.seqnum + n
  new : ∀ i, tableSize - n ≤ i → i < tableSize →
    m.listPkt i = some (d.seqnum + (i + n - tableSize))
  old : ∀ i < tableSize - n, m.listPkt i = d.listPkt i ∨ m.listPkt i = d.listPkt (i + n)
  beyond : ∀ i, tableSize ≤ i → m.listPkt i = d.listPkt i

/-- If the iteration enters `clear_and_fill_buffer`, slot 49 is not free, the scan stops at a slot
of the table, and the refill makes packets for as many slots at its end and for no other. -/
def ScanStops (s : Sender) (e : SenderPoll) : Prop :=
  ∀ ack ∈ ackProcessed crc32 s e, ∀ d ∈ beforeRefill s e ack,
    d.listPkt (tableSize - 1) ≠ none ∧
      ∃ n < tableSize, scanWhile Option.isNone d.listPkt tableSize 0 = some n ∧
        ∃ m, clearAndFillBuffer crc32 e.fill ack.window.val d = some m ∧ RefillsLast d m n

variable {crc32} {s s' d m : Sender}

/-! ## The deletion -/

/-- **An ACK frees no slot outside the window.** -/
theorem listPkt_deleteAcked {num i : ℕ} (h : deleteAcked s num = some d) (hi : s.window ≤ i) :
    d.listPkt i = s.listPkt i := by
  rcases deleteAcked_cases h with rfl | ⟨k, p, hk, -, -, -, rfl⟩
  · rfl
  · exact Function.update_of_ne (by omega) _ _

/-! ## The refill -/

theorem refilled_of_ge {listPkt : Slots ℕ} {c n i : ℕ} (hn : n ≤ tableSize) (hi : tableSize ≤ i) :
    refilled listPkt c n i = listPkt i := by
  unfold refilled overwrite
  rw [if_neg (by omega), shiftDown_apply]
  split
  · -- only slot 50 itself, when nothing is shifted
    rw [show n = 0 by omega, Nat.add_zero]
  · rfl

/-- **What a refill writes.** -/
theorem refillsLast_of_scan {fill : FillInputs} {win : ℤ} {n : ℕ}
    (hn : scanWhile Option.isNone d.listPkt tableSize 0 = some n)
    (hm : clearAndFillBuffer crc32 fill win d = some m) : RefillsLast d m n := by
  obtain ⟨hlt, -, -⟩ := scanWhile_zero_eq_some_iff.mp hn
  rw [clearAndFillBuffer_eq crc32 fill win hn] at hm
  obtain rfl := Option.some.inj hm
  refine ⟨rfl, fun i hlo hi => ?_, fun i hi => ?_, fun i hi => refilled_of_ge hlt.le hi⟩
  · exact (refilled_apply hlt.le hi).trans (if_pos (by omega))
  · show refilled d.listPkt d.seqnum n i = _ ∨ refilled d.listPkt d.seqnum n i = _
    rw [refilled_apply hlt.le (by omega), if_neg (by omega)]
    split
    · exact Or.inr rfl
    · exact Or.inl rfl

/-- A refill leaves a packet in the last slot, an old one or a new one. -/
theorem RefillsLast.last_ne_none {n : ℕ} (h : RefillsLast d m n)
    (hlast : d.listPkt (tableSize - 1) ≠ none) : m.listPkt (tableSize - 1) ≠ none := by
  by_cases hn : n = 0
  · subst hn
    rcases h.old (tableSize - 1) (by decide) with hsame | hsame <;> rwa [hsame]
  · rw [h.new (tableSize - 1) (by omega) (by decide)]
    exact Option.some_ne_none _

/-! ## Runs -/

/-- **The invariant**: the last slot holds a packet, and the window does not reach it. -/
structure LastHeld (s : Sender) : Prop where
  last : s.listPkt (tableSize - 1) ≠ none
  window_le : s.window ≤ 31

/-- The last slot holds a packet when the refill begins. -/
theorem LastHeld.beforeRefill (h : LastHeld s) {e : SenderPoll} {ack : Pkt}
    (hd : beforeRefill s e ack = some d) : d.listPkt (tableSize - 1) ≠ none := by
  have hwin : s.window ≤ tableSize - 1 := h.window_le.trans (by decide)
  rw [listPkt_deleteAcked hd hwin]
  exact h.last

/-- **The scan stops** in a state in which the last slot holds a packet. -/
theorem LastHeld.scanStops (h : LastHeld s) (e : SenderPoll) : ScanStops crc32 s e := by
  intro ack _ d hd
  have hlast := h.beforeRefill hd
  have htaken : (d.listPkt (tableSize - 1)).isNone = false :=
    Option.isNone_eq_false_iff.mpr (Option.isSome_iff_ne_none.mpr hlast)
  obtain ⟨n, -, hscan⟩ := exists_scanWhile (show tableSize - 1 < tableSize by decide) htaken
  obtain ⟨hlt, -, -⟩ := scanWhile_zero_eq_some_iff.mp hscan
  have hfill := clearAndFillBuffer_eq crc32 e.fill ack.window.val hscan
  exact ⟨hlast, n, hlt, hscan, _, hfill, refillsLast_of_scan hscan hfill⟩

theorem LastHeld.senderReceive (h : LastHeld s) {e : SenderPoll}
    (hrcv : senderReceive crc32 s e = some m) : LastHeld m := by
  rcases senderReceive_cases crc32 hrcv with ⟨-, hf⟩ | ⟨ack, -, hack⟩
  · exact ⟨by rw [hf.listPkt]; exact h.last, by rw [hf.window]; exact h.window_le⟩
  · obtain ⟨-, -, -, -, hwindow⟩ := handleAck_frame crc32 hack
    obtain ⟨d, r, hd, hr, rfl⟩ := handleAck_cases crc32 hack
    obtain ⟨n, hn, -⟩ := clearAndFillBuffer_cases crc32 hr
    refine ⟨(refillsLast_of_scan hn hr).last_ne_none (h.beforeRefill hd), ?_⟩
    have hannounced := ack.window.isLt
    have hold := h.window_le
    rw [hwindow]
    simp only
    split <;> omega

/-- **One iteration.** -/
theorem LastHeld.step (h : LastHeld s) {e : SenderPoll}
    (hstep : readWriteLoopSender crc32 s e = some s') : LastHeld s' := by
  refine readWriteLoopSender_rule crc32 (fun _ _ hs hm => hs.senderReceive hm) ?_ h hstep
  intro m r hm hreply
  have hframe := outputFrame_of_senderReply crc32 hreply
  exact ⟨by rw [hframe.listPkt]; exact hm.last, by rw [hframe.window]; exact hm.window_le⟩

theorem lastHeld_of_starts (h : Starts s) : LastHeld s where
  last := by
    rw [h.listPkt (tableSize - 1) (by decide)]
    exact Option.some_ne_none _
  window_le := by
    rw [h.window]
    decide

/-- **The scan stops inside the table**: for every file, whatever is read, from every state an
iteration that enters `clear_and_fill_buffer` finds slot 49 taken, its scan stops at some slot `n`
of the table, and the refill writes the slots from `50 - n` on only. -/
theorem scanStops_of_run (crc32 : List UInt8 → UInt32) (file : List UInt8) (buffer : Memory)
    (freshAck : Pkt) (clockAck : UInt32) (fill : FillInputs) (s₀ : Sender)
    (hinit : Sender.init crc32 file buffer freshAck clockAck fill = some s₀)
    (es : List SenderPoll) (s : Sender)
    (hrun : Run (readWriteLoopSender crc32) (fun _ _ _ => True) s₀ es s) (e : SenderPoll) :
    ScanStops crc32 s e := by
  obtain ⟨-, hstart⟩ := starts_of_init hinit
  have hinv : LastHeld s := hrun.invariant (I := fun _ s => LastHeld s)
    (lastHeld_of_starts hstart) fun _ _ _ _ h _ hstep => h.step hstep
  exact hinv.scanStops e

/-- An iteration that reads the ACK with the given number and the largest window there is. -/
def widePoll (num : ℕ) (writable : Writable) : SenderPoll :=
  { writePoll with
    readable := .pollin (.bytes (encoding zlibCrc32 (controlPkt blankPkt .ack num 31 0) []))
    writable := writable }

/-- Packets 1 to 31 are in flight, and the ACKs for packets 2 to 27 are processed.  The ACK for
packet 1 then finds 27 free slots at the front of the table. -/
theorem scanStops_long :
    ∃ s : Sender,
      ((beforeRefill s (widePoll 2 .idle) (controlPkt blankPkt .ack 2 31 0)).bind fun d =>
        scanWhile Option.isNone d.listPkt tableSize 0) = some 27 ∧
      ScanStops zlibCrc32 s (widePoll 2 .idle) := by
  obtain ⟨s, hrun, hview⟩ := exists_run_of_follow (readWriteLoopSender zlibCrc32)
    (fun _ _ _ => True) (startSender [])
    (writePoll :: widePoll 1 .pollout :: (List.range' 3 26).map fun num => widePoll num .idle)
    (fun s => (beforeRefill s (widePoll 2 .idle) (controlPkt blankPkt .ack 2 31 0)).bind fun d =>
      scanWhile Option.isNone d.listPkt tableSize 0)
    (show _ = some (some 27) by decide +kernel)
  exact ⟨s, hview, scanStops_of_run zlibCrc32 [] (fun _ => 0) blankPkt 0 blankFill
    (startSender []) (init_startSender []) _ s hrun (widePoll 2 .idle)⟩

end TrtpNetwork
