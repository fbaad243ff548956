import TrtpNetwork.Receiver.Acknowledgements

/-!
# The end of the transfer

After the last data the sender goes on with packets of length zero, and the receiver takes the first
of them for the end: it writes out the leading slots of its table and leaves the loop.  It does not
look at the number of the packet.  The marker travels in the window like any other packet, so it may
arrive before data that was lost, and then the data is never written.

A stream here has `N` packets with data and empty ones behind them.  `HoldsRest` is what has to be
true when a marker is read: every packet with data that is not written sits in its slot.  In runs in
which it is, the output at the end is complete, and for a single marker it is also necessary
(`closesComplete_of_run`).  `not_closesComplete` is a transfer of two bytes that ends after one.
-/

namespace TrtpNetwork

variable (crc32 : List UInt8 → UInt32) (stream : ℕ → List UInt8)

/-- The first `N` packets of the stream have data, and the others are end markers. -/
structure EndsAfter (N : ℕ) : Prop where
  data : ∀ i < N, stream i ≠ []
  marker : ∀ i, N ≤ i → stream i = []

/-- Every packet with data is written or in its slot. -/
def HoldsRest (N : ℕ) (r : Receiver) : Prop :=
  ∀ i < N, r.stdout.length ≤ i → r.listPkt (i - r.stdout.length) ≠ none

/-- The conditions on an iteration.  One that reads data is in the block of 256 the window has
reached, one that goes on to the flush makes a safe one, and one that reads a marker finds the rest
of the data in the table. -/
structure ClosesComplete (N : ℕ) (r : Receiver) (d : Delivery) : Prop where
  block : d.1.Reads → stream d.2 ≠ [] → d.2 / 256 = r.stdout.length / 256
  flush : d.1.writable = .pollout → ∀ m, receive crc32 r d.1 = some m →
    m.status ≠ .endOfData → FlushSafe m
  rest : d.1.Reads → stream d.2 = [] → HoldsRest N r

instance (N : ℕ) (r : Receiver) : Decidable (HoldsRest N r) := by
  unfold HoldsRest
  infer_instance

instance (N : ℕ) (r : Receiver) (d : Delivery) :
    Decidable (ClosesComplete crc32 stream N r d) :=
  decidable_of_iff
    ((d.1.Reads → stream d.2 ≠ [] → d.2 / 256 = r.stdout.length / 256) ∧
      (d.1.writable = .pollout → ∀ m ∈ receive crc32 r d.1,
        m.status ≠ .endOfData → FlushSafe m) ∧
      (d.1.Reads → stream d.2 = [] → HoldsRest N r))
    ⟨fun h => ⟨h.1, h.2.1, h.2.2⟩, fun h => ⟨h.block, h.flush, h.rest⟩⟩

/-- What a receiver that is not finished yet has written and holds: packets with data. -/
structure Unfinished (N : ℕ) (r : Receiver) : Prop extends Aligned stream r where
  written_le : r.stdout.length ≤ N
  data : ∀ k pkt, r.listPkt k = some pkt → r.stdout.length + k < N

theorem Unfinished.init (N : ℕ) (buffer : Memory) :
    Unfinished stream N (Receiver.init buffer) where
  toAligned := aligned_init stream buffer
  written_le := Nat.zero_le N
  data := fun k pkt h => by cases h

variable {crc32 stream} {N : ℕ} {ds : List Delivery} {r m r' : Receiver} {d : Delivery}

/-! ## While the transfer goes on -/

/-- What changes neither the table nor the output. -/
theorem Unfinished.keeps (h : Unfinished stream N r) (hal : Aligned stream m)
    (htable : m.listPkt = r.listPkt) (hstdout : m.stdout = r.stdout) : Unfinished stream N m := by
  refine ⟨hal, by rw [hstdout]; exact h.written_le, fun k p hp => ?_⟩
  rw [htable] at hp
  rw [hstdout]
  exact h.data k p hp

theorem Unfinished.receive (h : Unfinished stream N r) (hN : EndsAfter stream N)
    (hwindow : InWindow r d) (hne : d.1.Reads → stream d.2 ≠ []) (hal : Aligned stream m)
    (heff : ReceiveEffect stream r m d) : Unfinished stream N m := by
  rcases heff with ⟨-, hk⟩ | ⟨hyes, -, pkt, -, hst⟩ | ⟨-, -, hdrop⟩
  · exact h.keeps hal hk.table hk.stdout
  · refine ⟨hal, by rw [hst.stdout]; exact h.written_le, fun k p hp => ?_⟩
    rw [hst.table] at hp
    rw [hst.stdout]
    rcases eq_some_of_update_some hp with ⟨hki, -⟩ | ⟨-, hp⟩
    · have hlo := (hwindow hyes).1
      have hlt : d.2 < N := by
        by_contra hge
        exact hne hyes (hN.marker d.2 (by omega))
      omega
    · exact h.data k p hp
  · exact h.keeps hal hdrop.table hdrop.stdout

/-- A leading run consists of packets with data, so writing it does not get past the end. -/
theorem Unfinished.run_le (h : Unfinished stream N r) {n : ℕ} (hrun : ∀ k < n, r.listPkt k ≠ none) :
    r.stdout.length + n ≤ N := by
  cases n with
  | zero => exact h.written_le
  | succ n =>
    obtain ⟨pkt, hpkt⟩ := Option.ne_none_iff_exists'.mp (hrun n (by omega))
    have := h.data n pkt hpkt
    omega

theorem Unfinished.reply {e : ReceiverPoll} (h : Unfinished stream N m) (hal : Aligned stream r')
    (heff : ReplyEffect crc32 m r' e) : Unfinished stream N r' := by
  rcases heff with ⟨hk, -⟩ | ⟨-, s, hf⟩
  · exact h.keeps hal hk.table hk.stdout
  · obtain ⟨-, -, hfull⟩ := firstEmptyPlace_eq_some_iff.mp hf.first
    refine ⟨hal, by rw [hf.stdout_length]; exact h.run_le hfull, fun k p hp => ?_⟩
    rw [hf.table] at hp
    have := h.data (k + s) p hp
    rw [hf.stdout_length]
    omega

/-! ## Reading a marker -/

/-- The packets at two positions of the output differ by packets with data. -/
theorem flatten_eq_iff (hN : EndsAfter stream N) {n : ℕ} (hn : n ≤ N) :
    ((List.range n).map stream).flatten = ((List.range N).map stream).flatten ↔ n = N := by
  constructor
  · intro hflat
    by_contra hne
    obtain ⟨j, rfl⟩ : ∃ j, N = n + 1 + j := ⟨N - (n + 1), by omega⟩
    rw [List.range_add, List.map_append, List.range_succ, List.map_append, List.flatten_append,
      List.flatten_append, List.append_assoc, List.self_eq_append_right] at hflat
    have hnil := (List.append_eq_nil_iff.mp hflat).1
    exact hN.data n (by omega) (by simpa using hnil)
  · rintro rfl
    rfl

/-- The leading run reaches to the end of the data if and only if the table holds the rest. -/
theorem Unfinished.holdsRest_iff (h : Unfinished stream N r) (hN : EndsAfter stream N) {n : ℕ}
    (hn : closingRun r.listPkt = some n) : r.stdout.length + n = N ↔ HoldsRest N r := by
  obtain ⟨-, hstop, hfull⟩ := closingRun_eq_some_iff.mp hn
  constructor
  · intro hlen i hi hlo hnone
    obtain ⟨pkt, hpkt, -⟩ := hfull (i - r.stdout.length) (by omega)
    rw [hnone] at hpkt
    cases hpkt
  · intro hrest
    have hle : r.stdout.length + n ≤ N := by
      refine h.run_le fun k hk => ?_
      obtain ⟨pkt, hpkt, -⟩ := hfull k hk
      rw [hpkt]
      simp
    by_contra hne
    -- the slot the run stops at would have to hold a packet with data
    have hheld := hrest (r.stdout.length + n) (by omega) (by omega)
    rw [Nat.add_sub_cancel_left] at hheld
    obtain ⟨pkt, hpkt⟩ := Option.ne_none_iff_exists'.mp hheld
    have hempty := (h.slot n pkt hpkt).2.length_eq_zero_iff.mp (hstop pkt hpkt)
    exact hN.data _ (by omega) hempty

/-- **A marker ends the transfer** from an aligned state, with the leading run written out. -/
theorem Aligned.closes (h : Aligned stream r) (hrunning : r.status = .running) (hyes : d.1.Reads)
    (hread : ReadsPacket crc32 stream r d) (hempty : stream d.2 = []) :
    ∃ n r', closingRun r.listPkt = some n ∧ deliver crc32 r d = some r' ∧
      r'.status = .endOfData ∧
      r'.stdout = (List.range (r.stdout.length + n)).map stream := by
  obtain ⟨n, -, hn⟩ : ∃ n ≤ realWindow, closingRun r.listPkt = some n :=
    exists_scanWhile (by decide) (by rw [h.empty_of_ge (Nat.le_refl _)]; rfl)
  obtain ⟨pkt, buffer, t, hpkt, hrcv⟩ := receive_of_reads crc32 hyes hread
  have hal : Aligned stream { r with buffer := buffer, lastTimePkt := t } :=
    ⟨h.stdout, h.base, h.slot, h.nack⟩
  rw [if_pos hempty, hal.close hn (pktDel_of_content hpkt.2.2)] at hrcv
  exact ⟨n, _, hn, readWriteLoop_of_ended crc32 hrunning hrcv rfl, rfl, rfl⟩

/-- **Reading a marker.**  The iteration has an outcome and leaves the loop, and the output is
complete if and only if the table held the rest. -/
theorem Unfinished.closes (h : Unfinished stream N r) (hN : EndsAfter stream N)
    (hrunning : r.status = .running) (hyes : d.1.Reads) (hread : ReadsPacket crc32 stream r d)
    (hempty : stream d.2 = []) :
    ∃ r', deliver crc32 r d = some r' ∧ r'.status = .endOfData ∧
      (r'.stdout.flatten = ((List.range N).map stream).flatten ↔ HoldsRest N r) := by
  obtain ⟨n, r', hn, hstep, hstatus, hout⟩ :=
    h.toAligned.closes hrunning hyes hread hempty
  obtain ⟨-, -, hfull⟩ := closingRun_eq_some_iff.mp hn
  have hle : r.stdout.length + n ≤ N := by
    refine h.run_le fun k hk => ?_
    obtain ⟨pkt, hpkt, -⟩ := hfull k hk
    simp [hpkt]
  refine ⟨r', hstep, hstatus, ?_⟩
  rw [hout, flatten_eq_iff hN hle, h.holdsRest_iff hN hn]

/-- **One iteration** that meets the conditions has an outcome.  The transfer goes on, or it ends
with the output complete. -/
theorem Unfinished.step (h : Unfinished stream N r) (hN : EndsAfter stream N)
    (hok : ArrivesInWindow crc32 stream ds r d) (hclose : ClosesComplete crc32 stream N r d) :
    ∃ r', deliver crc32 r d = some r' ∧
      (r'.status ≠ .endOfData ∧ Unfinished stream N r' ∨
        r'.status = .endOfData ∧
          r'.stdout.flatten = ((List.range N).map stream).flatten) := by
  obtain ⟨hrunning, hread, hwindow⟩ := hok
  by_cases hmarker : d.1.Reads ∧ stream d.2 = []
  · obtain ⟨r', hstep, hstatus, hiff⟩ := h.closes hN hrunning hmarker.1 hread hmarker.2
    exact ⟨r', hstep, Or.inr ⟨hstatus, hiff.mpr (hclose.rest hmarker.1 hmarker.2)⟩⟩
  · have hne : d.1.Reads → stream d.2 ≠ [] := fun hyes he => hmarker ⟨hyes, he⟩
    have hblock : SameBlock r d := fun hyes => hclose.block hyes (hne hyes)
    obtain ⟨m, hm, hmal, hgoes, hrcv⟩ :=
      h.toAligned.receive crc32 hrunning hne hread hwindow hblock
    have hmid := h.receive hN hwindow hne hmal hrcv
    obtain ⟨r', hr', hal, hstay, hrep⟩ :=
      hmal.reply crc32 d.1 fun he => hclose.flush he m hm hgoes
    exact ⟨r', (readWriteLoop_of_receive crc32 hrunning hm hgoes).trans hr',
      Or.inl ⟨hstay hgoes, hmid.reply hal hrep⟩⟩

/-- **The end of the transfer over whole runs.**  In every run on packets inside the window whose
iterations meet the conditions, the output is complete when the loop has been left for a marker; and
a marker read in any state of such a run ends the transfer with complete output if and only if the
table holds the rest. -/
theorem closesComplete_of_run (crc32 : List UInt8 → UInt32) (stream : ℕ → List UInt8) (N : ℕ)
    (hN : EndsAfter stream N) (buffer : Memory) (ds : List Delivery) (r : Receiver)
    (hrun : Run (deliver crc32)
      (fun ds r d => ArrivesInWindow crc32 stream ds r d ∧ ClosesComplete crc32 stream N r d)
      (Receiver.init buffer) ds r) :
    (r.status = .endOfData → r.stdout.flatten = ((List.range N).map stream).flatten) ∧
    ∀ d, ArrivesInWindow crc32 stream ds r d → d.1.Reads → stream d.2 = [] →
      ∃ r', deliver crc32 r d = some r' ∧ r'.status = .endOfData ∧
        (r'.stdout.flatten = ((List.range N).map stream).flatten ↔ HoldsRest N r) := by
  have hinv : r.status ≠ .endOfData ∧ Unfinished stream N r ∨
      r.status = .endOfData ∧
        r.stdout.flatten = ((List.range N).map stream).flatten := by
    refine hrun.invariant
      (I := fun _ r => r.status ≠ .endOfData ∧ Unfinished stream N r ∨
        r.status = .endOfData ∧ r.stdout.flatten = ((List.range N).map stream).flatten)
      (Or.inl ⟨by simp [Receiver.init], Unfinished.init stream N buffer⟩) ?_
    rintro ds r d r' (⟨-, h⟩ | ⟨hend, -⟩) hok hstep
    · obtain ⟨q, hq, hcase⟩ := h.step hN hok.1 hok.2
      obtain rfl := Option.some.inj (hq.symm.trans hstep)
      exact hcase
    · have hrunning := hok.1.1
      rw [hend] at hrunning
      cases hrunning
  refine ⟨fun hend => ?_, fun d hok hyes hempty => ?_⟩
  · rcases hinv with ⟨hgoes, -⟩ | ⟨-, hout⟩
    · exact absurd hend hgoes
    · exact hout
  · rcases hinv with ⟨-, h⟩ | ⟨hend, -⟩
    · exact h.closes hN hok.1 hyes hok.2.1 hempty
    · have hrunning := hok.1
      rw [hend] at hrunning
      cases hrunning

/-- Two bytes, one in each packet, and end markers. -/
def twoByteStream (i : ℕ) : List UInt8 := if i < 2 then [UInt8.ofNat i] else []

theorem endsAfter_twoByteStream : EndsAfter twoByteStream 2 where
  data := fun i hi => by simp [twoByteStream, hi]
  marker := fun i hi => if_neg (by omega)

/-- The data in the wrong order, unwritten when the marker is read. -/
theorem closesComplete_twoBytes :
    ∃ r : Receiver, r.status = .endOfData ∧ r.stdout.flatten = [0, 1] := by
  obtain ⟨r, hrun, hstatus⟩ := exists_run_of_follow (deliver zlibCrc32)
    (fun ds r d => ArrivesInWindow zlibCrc32 twoByteStream ds r d ∧
      ClosesComplete zlibCrc32 twoByteStream 2 r d) (Receiver.init fun _ => 0)
    [streamDelivery zlibCrc32 twoByteStream blankPkt 1 .idle,
      streamDelivery zlibCrc32 twoByteStream blankPkt 0 .idle,
      streamDelivery zlibCrc32 twoByteStream blankPkt 2 .idle] Receiver.status
    (show _ = some LoopStatus.endOfData by decide +kernel)
  exact ⟨r, hstatus, (closesComplete_of_run zlibCrc32 twoByteStream 2 endsAfter_twoByteStream _ _ r
    hrun).1 hstatus⟩

/-- **The marker overtakes data.**  Packet 0 is written, packet 1 is lost, and packet 2, the first
marker, ends the transfer. -/
theorem not_closesComplete :
    ¬ ∀ (stream : ℕ → List UInt8) (N : ℕ), EndsAfter stream N →
      ∀ (buffer : Memory) (ds : List Delivery) (r : Receiver),
      Run (deliver zlibCrc32) (ArrivesInWindow zlibCrc32 stream) (Receiver.init buffer) ds r →
      r.status = .endOfData → r.stdout.flatten = ((List.range N).map stream).flatten := by
  intro h
  obtain ⟨r, hrun, hview⟩ := exists_run_of_follow (deliver zlibCrc32)
    (ArrivesInWindow zlibCrc32 twoByteStream) (Receiver.init fun _ => 0)
    [streamDelivery zlibCrc32 twoByteStream blankPkt 0 .pollout,
      streamDelivery zlibCrc32 twoByteStream blankPkt 2 .idle]
    (fun r => (r.status, r.stdout))
    (show _ = some (LoopStatus.endOfData, [[0]]) by decide +kernel)
  obtain ⟨hstatus, hout⟩ := Prod.mk.inj hview
  have hall := h twoByteStream 2 endsAfter_twoByteStream _ _ r hrun hstatus
  rw [hout] at hall
  exact absurd hall (by decide)

end TrtpNetwork
