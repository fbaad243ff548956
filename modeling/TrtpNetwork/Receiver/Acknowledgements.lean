import TrtpNetwork.Receiver.Deliveries

/-!
# What an acknowledgement promises

The sender takes the number of an ACK for the position up to which everything has arrived: it moves
its `base` there and sends as far as `base + window`.  `CumulativeAck` is the promise the receiver
would have to keep for that.  The number it sends is another one, the successor of the last packet
it put into its table, wherever that was.

`cumulativeAck_iff` compares the two: a flush keeps the promise exactly when it writes the packet
its ACK names.  `cumulativeAck_of_run` is the result about runs with this condition, read off the
table before the flush (`NamesWritten`), and `not_cumulativeAck` the run in which packet 1 overtakes
packet 0 and is acknowledged with nothing written.
-/

namespace TrtpNetwork

variable (crc32 : List UInt8 → UInt32) (stream : ℕ → List UInt8)

/-- A delivery inside the window. -/
def ArrivesInWindow (_ds : List Delivery) (r : Receiver) (d : Delivery) : Prop :=
  r.status = .running ∧ ReadsPacket crc32 stream r d ∧ InWindow r d

instance (ds : List Delivery) (r : Receiver) (d : Delivery) :
    Decidable (ArrivesInWindow crc32 stream ds r d) := by
  unfold ArrivesInWindow
  infer_instance

/-- Every ACK sent between `r` and `r'` is cumulative: its number, read as the stream position
closest to what is written, has only written packets below it. -/
def CumulativeAck (r r' : Receiver) : Prop :=
  ∀ w ∈ r'.written.drop r.written.length, w.1.type = .ack →
    ∀ a, Unwraps 256 r'.stdout.length w.1.seqnum.toNat a →
      ∀ j < a, r'.stdout[j]? = some (stream j)

/-- The pending ACK names a packet of the leading run. -/
def NamesWritten (r : Receiver) : Prop :=
  r.partialAck ≠ -1 → ∀ s, firstEmptyPlace r.listPkt = some s →
    ∃ k < s, ∀ pkt, r.listPkt k = some pkt → r.partialAck = ((pkt.seqnum.toNat + 1) % 256 : ℕ)

/-- If the iteration flushes, the ACK it sends names a packet it writes. -/
def AcksWritten (r : Receiver) (d : Delivery) : Prop :=
  d.1.writable = .pollout → ∀ m, receive crc32 r d.1 = some m → NamesWritten m

instance (r : Receiver) : Decidable (NamesWritten r) :=
  inferInstanceAs (Decidable (r.partialAck ≠ -1 → ∀ s ∈ firstEmptyPlace r.listPkt,
    ∃ k < s, ∀ pkt ∈ r.listPkt k, r.partialAck = ((pkt.seqnum.toNat + 1) % 256 : ℕ)))

instance (r : Receiver) (d : Delivery) : Decidable (AcksWritten crc32 r d) :=
  inferInstanceAs
    (Decidable (d.1.writable = .pollout → ∀ m ∈ receive crc32 r d.1, NamesWritten m))

variable {stream}

/-- The number a flush sends is the pending one. -/
theorem seqnum_ackPkt {r : Receiver} {a : ℕ} (h : r.partialAck = (a % 256 : ℕ)) (fresh : Pkt)
    (s : ℕ) : (ackPkt r fresh s).seqnum.toNat = a % 256 := by
  rw [ackPkt, controlPkt, h, toNat_toUint8_natCast, Nat.mod_mod]

/-- **When a flush keeps the promise.**  An ACK for packet `i` of the window is cumulative exactly
if the flush writes packet `i`. -/
theorem cumulativeAck_iff {m r' : Receiver} {fresh : Pkt} {s i : ℕ} (h' : Aligned stream r')
    (hf : Flushes crc32 m r' fresh s) (hi : m.partialAck = ((i + 1) % 256 : ℕ))
    (hlo : m.stdout.length ≤ i) (hhi : i < m.stdout.length + realWindow) :
    CumulativeAck stream m r' ↔ i < r'.stdout.length := by
  have hs := (firstEmptyPlace_eq_some_iff.mp hf.first).1
  have hlen := hf.stdout_length
  unfold receiveCells at hs
  unfold realWindow at hhi
  have hself : Unwraps 256 r'.stdout.length (ackPkt m fresh s).seqnum.toNat (i + 1) := by
    rw [seqnum_ackPkt hi]
    exact unwraps_mod (by omega) (by omega)
  constructor
  · intro hcum
    have hw : (ackPkt m fresh s, encoding crc32 (ackPkt m fresh s) []) ∈
        r'.written.drop m.written.length := by
      rw [hf.written, List.drop_left]
      exact List.mem_singleton_self _
    have := hcum _ hw rfl _ hself i (by omega)
    exact (List.getElem?_eq_some_iff.mp this).1
  · intro hlt w hw _ a ha j hj
    rw [hf.written, List.drop_left, List.mem_singleton] at hw
    subst hw
    have heq := ha.unique hself
    rw [h'.stdout, List.getElem?_map, List.getElem?_range (by omega)]
    rfl

/-- A flush whose ACK names a packet of the leading run keeps the promise. -/
theorem cumulativeAck_of_flush {m r' : Receiver} {fresh : Pkt} {s : ℕ} (h : Aligned stream m)
    (h' : Aligned stream r') (hf : Flushes crc32 m r' fresh s) (hnames : NamesWritten m) :
    CumulativeAck stream m r' := by
  obtain ⟨k, hk, hpkt⟩ := hnames hf.pending s hf.first
  obtain ⟨-, -, hfull⟩ := firstEmptyPlace_eq_some_iff.mp hf.first
  obtain ⟨pkt, hslot⟩ := Option.ne_none_iff_exists'.mp (hfull k hk)
  obtain ⟨hk4, hstream⟩ := h.slot k pkt hslot
  have hi : m.partialAck = ((m.stdout.length + k + 1) % 256 : ℕ) := by
    rw [hpkt pkt hslot, hstream.2.1]
    omega
  have hlen := hf.stdout_length
  exact (cumulativeAck_iff crc32 h' hf hi (by omega) (by omega)).mpr (by omega)

/-- **Cumulative acknowledgements.**  In every run of the receiver on packets inside the window,
in any order and any number of times, whose iterations keep the table in order and acknowledge only
packets that are being written: every ACK sent by a further such iteration is cumulative. -/
theorem cumulativeAck_of_run (crc32 : List UInt8 → UInt32) (stream : ℕ → List UInt8)
    (buffer : Memory) (ds : List Delivery) (r : Receiver)
    (hrun : Run (deliver crc32)
      (fun ds r d => ArrivesInWindow crc32 stream ds r d ∧
        SameBlock r d ∧ FlushesSafely crc32 r d ∧ AcksWritten crc32 r d)
      (Receiver.init buffer) ds r)
    (d : Delivery) (hok : ArrivesInWindow crc32 stream ds r d) (hblock : SameBlock r d)
    (hsafe : FlushesSafely crc32 r d) (hnames : AcksWritten crc32 r d) (r' : Receiver)
    (hstep : deliver crc32 r d = some r') : CumulativeAck stream r r' := by
  have hinv : r.status = .running → Aligned stream r := by
    refine hrun.invariant (I := fun _ r => r.status = .running → Aligned stream r)
      (fun _ => aligned_init stream buffer) ?_
    rintro ds r d r' h ⟨hok, hblock, hsafe, -⟩ hstep hrunning
    obtain ⟨m, -, -, hal, -⟩ | ⟨hend, -⟩ :=
      (h hok.1).iterate_or_close crc32 hok.1 hok.2.1 hok.2.2 hblock hsafe hstep
    · exact hal
    · rw [hend] at hrunning
      cases hrunning
  obtain ⟨m, hm, hmal, hal, hrcv, hrep⟩ | ⟨-, hwritten, -⟩ :=
    (hinv hok.1).iterate_or_close crc32 hok.1 hok.2.1 hok.2.2 hblock hsafe hstep
  · have hwm : m.written = r.written := by
      rcases hrcv with ⟨-, hk⟩ | ⟨-, -, pkt, -, hst⟩ | ⟨-, -, hd⟩
      · exact hk.written
      · exact hst.written
      · exact hd.written
    rcases hrep with ⟨hk, -⟩ | ⟨hout, s, hf⟩
    · intro w hw
      rw [hk.written, hwm, List.drop_length] at hw
      cases hw
    · have := cumulativeAck_of_flush crc32 hmal hal hf (hnames hout m hm)
      rwa [CumulativeAck, hwm] at this
  · intro w hw
    rw [hwritten, List.drop_length] at hw
    cases hw

/-- Packet 0 is read, then packet 1, and then both are flushed: the ACK, number 2, is cumulative. -/
theorem cumulativeAck_pair :
    ∃ r r', deliver zlibCrc32 r
        (streamDelivery zlibCrc32 countingStream blankPkt 1 .pollout) = some r' ∧
      r'.stdout = [[0], [1]] ∧ CumulativeAck countingStream r r' := by
  let d := streamDelivery zlibCrc32 countingStream blankPkt 1 .pollout
  obtain ⟨r, hrun, hview⟩ := exists_run_of_follow (deliver zlibCrc32)
    (fun ds r d => ArrivesInWindow zlibCrc32 countingStream ds r d ∧
      SameBlock r d ∧ FlushesSafely zlibCrc32 r d ∧ AcksWritten zlibCrc32 r d)
    (Receiver.init fun _ => 0) [streamDelivery zlibCrc32 countingStream blankPkt 0 .idle]
    (fun r => (decide (ArrivesInWindow zlibCrc32 countingStream [] r d ∧ SameBlock r d ∧
      FlushesSafely zlibCrc32 r d ∧ AcksWritten zlibCrc32 r d),
      (deliver zlibCrc32 r d).map Receiver.stdout))
    (show _ = (some (true, some [[0], [1]])) by decide +kernel)
  obtain ⟨hok, hout⟩ := Prod.mk.inj hview
  obtain ⟨harr, hblock, hsafe, hnames⟩ := of_decide_eq_true hok
  obtain ⟨r', hr', hstdout⟩ := Option.map_eq_some_iff.mp hout
  exact ⟨r, r', hr', hstdout, cumulativeAck_of_run zlibCrc32 countingStream _ _ r hrun d harr hblock
    hsafe hnames r' hr'⟩

/-- **An ACK for nothing written.**  Packet 1 overtakes packet 0 and is flushed: the flush writes
nothing, and the ACK has number 2. -/
theorem not_cumulativeAck :
    ¬ ∀ (stream : ℕ → List UInt8) (buffer : Memory) (ds : List Delivery) (r : Receiver),
      Run (deliver zlibCrc32) (ArrivesInWindow zlibCrc32 stream) (Receiver.init buffer) ds r →
      ∀ d, ArrivesInWindow zlibCrc32 stream ds r d →
      ∀ r', deliver zlibCrc32 r d = some r' → CumulativeAck stream r r' := by
  intro h
  let d := streamDelivery zlibCrc32 countingStream blankPkt 1 .pollout
  have hok : ArrivesInWindow zlibCrc32 countingStream [] (Receiver.init fun _ => 0) d := by
    decide +kernel
  have hview : (deliver zlibCrc32 (Receiver.init fun _ => 0) d).map
      (fun r => (r.stdout.length, r.written.map fun w => (w.1.type, w.1.seqnum))) =
      some (0, [(Ptypes.ack, 2)]) := by
    decide +kernel
  obtain ⟨r', hr', hobs⟩ := Option.map_eq_some_iff.mp hview
  obtain ⟨hlen, hack⟩ := Prod.mk.inj hobs
  obtain ⟨w, hw, hnum⟩ := List.map_eq_singleton_iff.mp hack
  obtain ⟨htype, hseq⟩ := Prod.mk.inj hnum
  have hcum := h countingStream _ [] _ Run.nil d hok r' hr' w (by rw [hw]; exact List.mem_cons_self)
    htype 2 (by rw [hlen, hseq]; decide) 0 (by decide)
  have := (List.getElem?_eq_some_iff.mp hcum).1
  omega

end TrtpNetwork
