import TrtpNetwork.Receiver.Reassembly

/-!
# Runs of the receiver on a stream

A delivery is one poll iteration together with the stream position of the packet it reads, if it
reads one.  The position is not part of what the receiver sees: it sees a datagram, of which
`ReadsPacket` says that it decodes, in the buffer as it then is, to the packet at that position.

`Aligned.iterate` describes one iteration from an aligned state, whichever of its halves run: what
the input half did, what the output half did, and that the state is aligned after each.  The
conditions it asks for are the two of `Receiver.Reassembly`, an arrival in the block of 256 that
the window has reached (`SameBlock`) and a safe flush.
-/

namespace TrtpNetwork

/-- One iteration, and the stream position of the packet it reads. -/
abbrev Delivery := ReceiverPoll × ℕ

/-- The iteration reads a datagram. -/
def ReceiverPoll.Reads (e : ReceiverPoll) : Prop := ∃ result, e.readable = .pollin result

instance (e : ReceiverPoll) : Decidable e.Reads :=
  match h : e.readable with
  | .pollin result => isTrue ⟨result, h⟩
  | .idle => isFalse fun ⟨_, h'⟩ => by rw [h] at h'; cases h'
  | .other => isFalse fun ⟨_, h'⟩ => by rw [h] at h'; cases h'

/-- The positions of the packets that arrived, in order. -/
def arrivals (ds : List Delivery) : List ℕ := (ds.filter fun d => d.1.Reads).map Prod.snd

theorem arrivals_snoc (ds : List Delivery) (d : Delivery) :
    arrivals (ds ++ [d]) = arrivals ds ++ if d.1.Reads then [d.2] else [] := by
  unfold arrivals
  by_cases h : d.1.Reads <;> simp [h]

theorem mem_arrivals_snoc {ds : List Delivery} {d : Delivery} {i : ℕ} :
    i ∈ arrivals (ds ++ [d]) ↔ i ∈ arrivals ds ∨ d.1.Reads ∧ i = d.2 := by
  rw [arrivals_snoc]
  by_cases h : d.1.Reads <;> simp [h]

variable (crc32 : List UInt8 → UInt32) (stream : ℕ → List UInt8)

/-- One iteration of the receiver, as a step on deliveries. -/
def deliver (r : Receiver) (d : Delivery) : Option Receiver := readWriteLoop crc32 r d.1

/-- What the iteration reads, if anything, decodes to the stream packet at its position. -/
def ReadsPacket (r : Receiver) (d : Delivery) : Prop :=
  ∀ result, d.1.readable = .pollin result →
    (decodeRead crc32 r.buffer result d.1.beyond d.1.freshRcv).1 = .pktOk ∧
      IsStreamPacket stream d.2 (decodeRead crc32 r.buffer result d.1.beyond d.1.freshRcv).2

/-- The packet lies in the receive window. -/
def InWindow (r : Receiver) (d : Delivery) : Prop :=
  d.1.Reads → r.stdout.length ≤ d.2 ∧ d.2 < r.stdout.length + realWindow

/-- The packet lies in the same block of 256 stream positions as the first unwritten one. -/
def SameBlock (r : Receiver) (d : Delivery) : Prop :=
  d.1.Reads → d.2 / 256 = r.stdout.length / 256

/-- If the iteration flushes, it does so from a state in which that is safe. -/
def FlushesSafely (r : Receiver) (d : Delivery) : Prop :=
  d.1.writable = .pollout → ∀ m, receive crc32 r d.1 = some m → FlushSafe m

instance (r : Receiver) (d : Delivery) : Decidable (ReadsPacket crc32 stream r d) :=
  match h : d.1.readable with
  | .pollin result =>
    decidable_of_iff ((decodeRead crc32 r.buffer result d.1.beyond d.1.freshRcv).1 = .pktOk ∧
        IsStreamPacket stream d.2 (decodeRead crc32 r.buffer result d.1.beyond d.1.freshRcv).2)
      ⟨fun hp _ hr => Readable.pollin.inj (h.symm.trans hr) ▸ hp, fun hp => hp result h⟩
  | .idle => isTrue fun _ hr => by rw [h] at hr; cases hr
  | .other => isTrue fun _ hr => by rw [h] at hr; cases hr

instance (r : Receiver) (d : Delivery) : Decidable (InWindow r d) := by
  unfold InWindow
  infer_instance

instance (r : Receiver) (d : Delivery) : Decidable (SameBlock r d) := by
  unfold SameBlock
  infer_instance

instance (r : Receiver) (d : Delivery) : Decidable (FlushesSafely crc32 r d) :=
  inferInstanceAs (Decidable (d.1.writable = .pollout → ∀ m ∈ receive crc32 r d.1, FlushSafe m))

/-! ## Datagrams of the stream

A packet counts as arrived when it decodes.  The datagrams `pkt_encode` makes for packets of the
stream do, as long as they fit into the buffer. -/

/-- The iteration that reads stream packet `i` as `put_on_pkt` encodes it. -/
def streamDelivery (fresh : Pkt) (i : ℕ) (writable : Writable) : Delivery where
  fst :=
    { readable := .pollin (.bytes
        (encoding crc32 (dataPkt fresh (stream i) i realWindow 0) (stream i)))
      writable := writable
      beyond := fun _ => 0
      freshRcv := fresh
      freshNack := fresh
      freshAck := fresh }
  snd := i

theorem readsPacket_streamDelivery {fresh : Pkt} {i : ℕ} (hlen : (stream i).length ≤ 496)
    (writable : Writable) (r : Receiver) :
    ReadsPacket crc32 stream r (streamDelivery crc32 stream fresh i writable) := by
  intro result hresult
  obtain rfl : _ = result := Readable.pollin.inj hresult
  have hcontent := content_dataPkt (show (stream i).length ≤ 512 by omega) fresh i realWindow 0
  simp only [streamDelivery]
  rw [decodeRead_encoding crc32 hcontent rfl hlen]
  exact ⟨rfl, rfl, toNat_toUint8_natCast i, content_decodedPkt crc32 fresh hcontent⟩

/-- The stream whose packet `i` is the one byte `i`. -/
def countingStream (i : ℕ) : List UInt8 := [UInt8.ofNat i]

/-! ## One iteration -/

/-- Nothing changes but, possibly, whether the loop goes on. -/
structure Keeps (r r' : Receiver) : Prop where
  table : r'.listPkt = r.listPkt
  partialAck : r'.partialAck = r.partialAck
  freePlace : r'.freePlace = r.freePlace
  stdout : r'.stdout = r.stdout
  written : r'.written = r.written
  packetIgnored : r'.packetIgnored = r.packetIgnored

/-- What the input half did. -/
def ReceiveEffect (r m : Receiver) (d : Delivery) : Prop :=
  ¬ d.1.Reads ∧ Keeps r m ∨
  (d.1.Reads ∧ r.listPkt (d.2 - r.stdout.length) = none ∧
    ∃ pkt, IsStreamPacket stream d.2 pkt ∧ Stores r m d.2 (d.2 - r.stdout.length) pkt) ∨
  (d.1.Reads ∧ r.listPkt (d.2 - r.stdout.length) ≠ none ∧ Drops r m)

/-- What the output half did. -/
def ReplyEffect (m r' : Receiver) (e : ReceiverPoll) : Prop :=
  Keeps m r' ∧ (e.writable = .pollout → m.partialAck = -1) ∨
  e.writable = .pollout ∧ ∃ s, Flushes crc32 m r' e.freshAck s

variable {stream} {r : Receiver} {d : Delivery}

/-- Reading a packet of the stream: only the buffer and `last_time_pkt` change before it is stored
or ends the transfer. -/
theorem receive_of_reads (hyes : d.1.Reads) (hread : ReadsPacket crc32 stream r d) :
    ∃ pkt buffer t, IsStreamPacket stream d.2 pkt ∧ receive crc32 r d.1 =
      if stream d.2 = [] then closeTransfer { r with buffer := buffer, lastTimePkt := t } pkt
      else placePacket { r with buffer := buffer, lastTimePkt := t } pkt := by
  obtain ⟨result, he⟩ := hyes
  obtain ⟨hok, hpkt⟩ := hread result he
  obtain ⟨t, ht⟩ := handlePacket_of_stream hok hpkt { r with buffer := readInto r.buffer result }
  refine ⟨_, readInto r.buffer result, t, hpkt, ?_⟩
  rw [receive, he]
  exact ht

/-- Without a read the input half leaves everything but the status. -/
theorem receive_of_not_reads (hno : ¬ d.1.Reads) (hrunning : r.status = .running) :
    ∃ status, receive crc32 r d.1 = some { r with status := status } ∧ status ≠ .endOfData := by
  rw [receive]
  cases he : d.1.readable with
  | idle => exact ⟨r.status, rfl, by simp [hrunning]⟩
  | other => exact ⟨.hangup, rfl, by simp⟩
  | pollin result => exact absurd ⟨result, he⟩ hno

theorem Aligned.receive (h : Aligned stream r) (hrunning : r.status = .running)
    (hne : d.1.Reads → stream d.2 ≠ []) (hread : ReadsPacket crc32 stream r d)
    (hwindow : InWindow r d) (hblock : SameBlock r d) :
    ∃ m, receive crc32 r d.1 = some m ∧ Aligned stream m ∧ m.status ≠ .endOfData ∧
      ReceiveEffect stream r m d := by
  by_cases hyes : d.1.Reads
  · obtain ⟨pkt, buffer, t, hpkt, hrcv⟩ := receive_of_reads crc32 hyes hread
    have hal : Aligned stream { r with buffer := buffer, lastTimePkt := t } :=
      ⟨h.stdout, h.base, h.slot, h.nack⟩
    obtain ⟨m, hm, hmal, heff⟩ := hal.place hpkt (hwindow hyes).1 (hwindow hyes).2 (hblock hyes)
    refine ⟨m, by rw [hrcv, if_neg (hne hyes), hm], hmal, ?_, ?_⟩
    · rcases heff with ⟨-, heff⟩ | ⟨-, heff⟩ <;> rw [heff.status] <;> simp [hrunning]
    · rcases heff with ⟨hfree, heff⟩ | ⟨htaken, heff⟩
      · exact Or.inr (Or.inl ⟨hyes, hfree, _, hpkt, heff.table, heff.partialAck, heff.freePlace,
          heff.stdout, heff.written, heff.packetIgnored, heff.status⟩)
      · exact Or.inr (Or.inr ⟨hyes, htaken, heff.table, heff.partialAck, heff.freePlace,
          heff.stdout, heff.written, heff.status⟩)
  · obtain ⟨status, hm, hend⟩ := receive_of_not_reads crc32 hyes hrunning
    exact ⟨_, hm, ⟨h.stdout, h.base, h.slot, h.nack⟩, hend,
      Or.inl ⟨hyes, rfl, rfl, rfl, rfl, rfl, rfl⟩⟩

/-- An empty packet ends the transfer: the rest of the output is more of the stream, and nothing is
sent. -/
theorem Aligned.receive_empty (h : Aligned stream r) (hyes : d.1.Reads)
    (hempty : stream d.2 = []) (hread : ReadsPacket crc32 stream r d) {m : Receiver}
    (hm : TrtpNetwork.receive crc32 r d.1 = some m) :
    m.status = .endOfData ∧ m.written = r.written ∧
      m.stdout = (List.range m.stdout.length).map stream := by
  obtain ⟨pkt, buffer, t, -, hrcv⟩ := receive_of_reads crc32 hyes hread
  rw [hrcv, if_pos hempty] at hm
  have hal : Aligned stream { r with buffer := buffer, lastTimePkt := t } :=
    ⟨h.stdout, h.base, h.slot, h.nack⟩
  obtain ⟨n, -, hn, hdel, -⟩ := closeTransfer_cases hm
  obtain rfl := Option.some.inj ((hal.close hn hdel).symm.trans hm)
  exact ⟨rfl, rfl, by simp⟩

/-- The output half.  It may hang up, but it does not end the transfer. -/
theorem Aligned.reply {m : Receiver} (h : Aligned stream m) (e : ReceiverPoll)
    (hsafe : e.writable = .pollout → FlushSafe m) :
    ∃ r', reply crc32 m e = some r' ∧ Aligned stream r' ∧
      (m.status ≠ .endOfData → r'.status ≠ .endOfData) ∧ ReplyEffect crc32 m r' e := by
  cases he : e.writable with
  | idle =>
    exact ⟨m, by simp [TrtpNetwork.reply, he], h, fun hm => hm,
      Or.inl ⟨⟨rfl, rfl, rfl, rfl, rfl, rfl⟩, fun h' => by rw [he] at h'; cases h'⟩⟩
  | other =>
    exact ⟨{ m with status := .hangup }, by simp [TrtpNetwork.reply, he],
      ⟨h.stdout, h.base, h.slot, h.nack⟩, fun _ => by simp,
      Or.inl ⟨⟨rfl, rfl, rfl, rfl, rfl, rfl⟩, fun h' => by rw [he] at h'; cases h'⟩⟩
  | pollout =>
    rw [reply_pollout crc32 h.nack he]
    by_cases hack : m.partialAck = -1
    · exact ⟨m, sendAck_of_idle crc32 hack _, h, fun hm => hm,
        Or.inl ⟨⟨rfl, rfl, rfl, rfl, rfl, rfl⟩, fun _ => hack⟩⟩
    · obtain ⟨r', s, hr', hal, hfl⟩ := h.sendAck crc32 (hsafe he) hack e.freshAck
      refine ⟨r', hr', hal, fun hm => ?_, Or.inr ⟨he, s, hfl⟩⟩
      rw [hfl.status]
      exact hm

/-- **One iteration from an aligned state.** -/
theorem Aligned.iterate (h : Aligned stream r) (hrunning : r.status = .running)
    (hne : d.1.Reads → stream d.2 ≠ []) (hread : ReadsPacket crc32 stream r d)
    (hwindow : InWindow r d) (hblock : SameBlock r d) (hflush : FlushesSafely crc32 r d) :
    ∃ m r', deliver crc32 r d = some r' ∧ Aligned stream m ∧ Aligned stream r' ∧
      ReceiveEffect stream r m d ∧ ReplyEffect crc32 m r' d.1 := by
  obtain ⟨m, hm, hmal, hend, hrcv⟩ := h.receive crc32 hrunning hne hread hwindow hblock
  obtain ⟨r', hr', hal, -, hrep⟩ := hmal.reply crc32 d.1 fun he => hflush he m hm
  exact ⟨m, r', (readWriteLoop_of_receive crc32 hrunning hm hend).trans hr', hmal, hal, hrcv, hrep⟩

/-- **One iteration from an aligned state, the last one included**: either it goes on as in
`Aligned.iterate`, or it ends the transfer. -/
theorem Aligned.iterate_or_close (h : Aligned stream r) (hrunning : r.status = .running)
    (hread : ReadsPacket crc32 stream r d) (hwindow : InWindow r d) (hblock : SameBlock r d)
    (hflush : FlushesSafely crc32 r d) {r' : Receiver} (hstep : deliver crc32 r d = some r') :
    (∃ m, TrtpNetwork.receive crc32 r d.1 = some m ∧ Aligned stream m ∧ Aligned stream r' ∧
      ReceiveEffect stream r m d ∧ ReplyEffect crc32 m r' d.1) ∨
    (r'.status = .endOfData ∧ r'.written = r.written ∧
      r'.stdout = (List.range r'.stdout.length).map stream) := by
  rw [deliver, readWriteLoop, if_pos hrunning] at hstep
  obtain ⟨m, hm, hrest⟩ := Option.bind_eq_some_iff.mp hstep
  by_cases hempty : d.1.Reads ∧ stream d.2 = []
  · obtain ⟨hstatus, hclosed⟩ := h.receive_empty crc32 hempty.1 hempty.2 hread hm
    rw [if_pos hstatus] at hrest
    obtain rfl := Option.some.inj hrest
    exact Or.inr ⟨hstatus, hclosed⟩
  · have hne : d.1.Reads → stream d.2 ≠ [] := fun hyes he => hempty ⟨hyes, he⟩
    obtain ⟨m', hm', hmal, hend, hrcv⟩ := h.receive crc32 hrunning hne hread hwindow hblock
    obtain rfl := Option.some.inj (hm.symm.trans hm')
    obtain ⟨q, hq, hal, -, hrep⟩ := hmal.reply crc32 d.1 fun he => hflush he m hm
    rw [if_neg hend] at hrest
    obtain rfl := Option.some.inj (hq.symm.trans hrest)
    exact Or.inl ⟨m, hm, hmal, hal, hrcv, hrep⟩

end TrtpNetwork
