import TrtpNetwork.Sender.Table
import TrtpNetwork.System.Network

/-!
# What arrives over a link that loses, copies and reorders

`LossyLink` is the link that may lose, copy, delay and reorder datagrams, as long as no copy arrives
after a packet 128 or more positions newer was sent.  The output of the receiver should be a prefix
of the file on it, and is not: a copy of packet 0 that arrives behind the flush of packet 0 is
written out a second time (`not_outputPrefix`).

`outputPrefix_of_run` is the result for the runs in which the receiver finds the right place for
what it reads (`ArrivesInPlace`) and flushes safely.  The first is a condition on each arrival: it
is inside the window of four packets, and inside the window's block of 256 positions, or the slot it
addresses is taken, which drops it.  The sender and the ACKs play no part in it; they may do what
they like.
-/

namespace TrtpNetwork

/-- The link may deliver any copy of anything sent, unless a packet 128 or more positions newer has
been sent since.  An ACK counts for every packet it can be for. -/
def LossyLink (n : Network) : Event → Prop
  | .sender e => ∀ result ∈ e.readable.result, ∃ a ∈ n.receiver.written, result = .bytes a.2 ∧
      ∀ v ∈ n.sender.written, a.1.seqnum.toNat = (v.position + 1) % 256 →
        ∀ u ∈ n.sender.written, u.position < v.position + 128
  | .receiver e => ∀ result ∈ e.readable.result, ∃ w ∈ n.sender.written,
      result = .bytes w.datagram ∧ ∀ u ∈ n.sender.written, u.position < w.position + 128

variable (crc32 : List UInt8 → UInt32) (file : List UInt8)

/-- The packet ends the transfer, or lies in the window and in its block of 256 positions, or is
dropped because the slot it addresses is taken. -/
def ArrivesInPlace (r : Receiver) (i : ℕ) : Prop :=
  chunk file i = [] ∨
  r.stdout.length ≤ i ∧ i < r.stdout.length + realWindow ∧ i / 256 = r.stdout.length / 256 ∨
  AddressesTaken r i

/-- An iteration of the receiver reads a transmission that arrives in place, or nothing, and flushes
safely. -/
def ReceivesInPlace (n : Network) : Event → Prop
  | .sender _ => True
  | .receiver e =>
    (∀ result ∈ e.readable.result, ∃ w ∈ n.sender.written, result = .bytes w.datagram ∧
      ArrivesInPlace file n.receiver w.position) ∧
    (e.writable = .pollout → ∀ m ∈ receive crc32 n.receiver e, FlushSafe m)

/-! ## Runs in place -/

/-- What was written is the front of the stream, and the table is aligned while the loop runs. -/
structure InPlace (r : Receiver) : Prop where
  stdout : r.stdout = (List.range r.stdout.length).map (chunk file)
  aligned : r.status = .running → Aligned (chunk file) r

variable {crc32 file} {n n' : Network} {r : Receiver}

theorem InPlace.of_aligned (h : Aligned (chunk file) r) : InPlace file r :=
  ⟨h.stdout, fun _ => h⟩

/-- The input half leaves the loop aligned, or at the end of the transfer. -/
theorem InPlace.receive (hgen : Genuine crc32 file n.sender) (h : InPlace file n.receiver)
    (hrunning : n.receiver.status = .running) {e : ReceiverPoll}
    (harrives : ∀ result ∈ e.readable.result, ∃ w ∈ n.sender.written, result = .bytes w.datagram ∧
      ArrivesInPlace file n.receiver w.position) {m : Receiver}
    (hm : TrtpNetwork.receive crc32 n.receiver e = some m) :
    Aligned (chunk file) m ∧ m.status ≠ .endOfData ∨
      m.status = .endOfData ∧ m.stdout = (List.range m.stdout.length).map (chunk file) := by
  have hal := h.aligned hrunning
  by_cases hyes : e.Reads
  · obtain ⟨result, he⟩ := hyes
    obtain ⟨w, hw, hresult, hplace⟩ := harrives result (Readable.result_eq_some_iff.mpr he)
    have hread := readsPacket_of_sent hgen he ⟨hw, hresult⟩ n.receiver
    by_cases hempty : chunk file w.position = []
    · obtain ⟨hend, -, hstdout⟩ := hal.receive_empty crc32 ⟨result, he⟩ hempty hread hm
      exact Or.inr ⟨hend, hstdout⟩
    · left
      rcases hplace.resolve_left hempty with ⟨hlo, hhi, hblock⟩ | htaken
      · obtain ⟨q, hq, hqal, hend, -⟩ := hal.receive crc32 (d := (e, w.position)) hrunning
          (fun _ => hempty) hread (fun _ => ⟨hlo, hhi⟩) fun _ => hblock
        obtain rfl := Option.some.inj (hm.symm.trans hq)
        exact ⟨hqal, hend⟩
      · obtain ⟨pkt, buffer, t, hpkt, hrcv⟩ :=
          receive_of_reads crc32 (d := (e, w.position)) ⟨result, he⟩ hread
        have hal' : Aligned (chunk file) { n.receiver with buffer := buffer, lastTimePkt := t } :=
          ⟨hal.stdout, hal.base, hal.slot, hal.nack⟩
        obtain ⟨q, hq, hqal, hdrops⟩ := hal'.drop hpkt htaken
        rw [hrcv, if_neg hempty] at hm
        obtain rfl := Option.some.inj (hm.symm.trans hq)
        refine ⟨hqal, ?_⟩
        rw [hdrops.status]
        simp [hrunning]
  · left
    obtain ⟨status, hm', hend⟩ := receive_of_not_reads crc32 (d := (e, 0)) hyes hrunning
    obtain rfl := Option.some.inj (hm.symm.trans hm')
    exact ⟨⟨hal.stdout, hal.base, hal.slot, hal.nack⟩, hend⟩

/-- **One iteration of either side.** -/
theorem InPlace.step (hgen : Genuine crc32 file n.sender) (h : InPlace file n.receiver)
    {e : Event} (hplace : ReceivesInPlace crc32 file n e)
    (hstep : networkStep crc32 n e = some n') : InPlace file n'.receiver := by
  rcases e with e | e
  · obtain ⟨s, -, rfl⟩ := Option.map_eq_some_iff.mp hstep
    exact h
  obtain ⟨r, hr, rfl⟩ := Option.map_eq_some_iff.mp hstep
  obtain ⟨harrives, hflush⟩ := hplace
  rcases readWriteLoop_cases crc32 hr with ⟨-, rfl⟩ | ⟨hrunning, m, hm, hrest⟩
  · exact h
  rcases h.receive hgen hrunning harrives hm with ⟨hal, hgoes⟩ | ⟨hend, hstdout⟩
  · rcases hrest with ⟨hend, -⟩ | ⟨-, hreply⟩
    · exact absurd hend hgoes
    · obtain ⟨q, hq, hqal, -⟩ := hal.reply crc32 e fun hout => hflush hout m hm
      obtain rfl := Option.some.inj (hreply.symm.trans hq)
      exact InPlace.of_aligned hqal
  · rcases hrest with ⟨-, rfl⟩ | ⟨hgoes, -⟩
    · exact ⟨hstdout, fun hrunning' => absurd (hend.symm.trans hrunning') (by simp)⟩
    · exact absurd hend hgoes

/-- **The output is a prefix of the file** in the runs in which everything the receiver reads
arrives in place and every flush is safe: for every file, every interleaving of the two loops,
whatever the sender reads. -/
theorem outputPrefix_of_run (crc32 : List UInt8 → UInt32) (file : List UInt8) (buffer : Memory)
    (freshAck : Pkt) (clockAck : UInt32) (fill : FillInputs) (s₀ : Sender)
    (hinit : Sender.init crc32 file buffer freshAck clockAck fill = some s₀) (bufferR : Memory)
    (es : List Event) (n : Network)
    (hrun : Run (networkStep crc32) (fun _ n e => ReceivesInPlace crc32 file n e)
      ⟨s₀, Receiver.init bufferR⟩ es n) :
    n.receiver.stdout.flatten <+: file := by
  obtain ⟨hgen, -⟩ := starts_of_init hinit
  have hinv : Genuine crc32 file n.sender ∧ InPlace file n.receiver := by
    refine hrun.invariant (I := fun _ n => Genuine crc32 file n.sender ∧ InPlace file n.receiver)
      ⟨hgen, InPlace.of_aligned (aligned_init (chunk file) bufferR)⟩ ?_
    rintro es n e n' ⟨hgen, hin⟩ hplace hstep
    exact ⟨hgen.networkStep hstep, hin.step hgen hplace hstep⟩
  rw [hinv.2.stdout, flatten_chunks]
  exact List.take_prefix ..

instance (n : Network) (e : Event) : Decidable (LossyLink n e) :=
  match e with
  | .sender e => inferInstanceAs (Decidable (∀ result ∈ e.readable.result,
      ∃ a ∈ n.receiver.written, result = .bytes a.2 ∧
        ∀ v ∈ n.sender.written, a.1.seqnum.toNat = (v.position + 1) % 256 →
          ∀ u ∈ n.sender.written, u.position < v.position + 128))
  | .receiver e => inferInstanceAs (Decidable (∀ result ∈ e.readable.result,
      ∃ w ∈ n.sender.written, result = .bytes w.datagram ∧
        ∀ u ∈ n.sender.written, u.position < w.position + 128))

instance (r : Receiver) (i : ℕ) : Decidable (ArrivesInPlace file r i) := by
  unfold ArrivesInPlace
  infer_instance

instance (n : Network) (e : Event) : Decidable (ReceivesInPlace crc32 file n e) :=
  match e with
  | .sender _ => isTrue trivial
  | .receiver e => inferInstanceAs (Decidable ((∀ result ∈ e.readable.result,
      ∃ w ∈ n.sender.written, result = .bytes w.datagram ∧
        ArrivesInPlace file n.receiver w.position) ∧
      (e.writable = .pollout → ∀ m ∈ receive crc32 n.receiver e, FlushSafe m)))

/-- The receiver reads packet `i` of a file as it was when the table was first filled. -/
def dataPoll (file : List UInt8) (i : ℕ) (writable : Writable) : ReceiverPoll where
  readable := .pollin
    (.bytes (encoding zlibCrc32 (dataPkt blankPkt (chunk file i) i 1 0) (chunk file i)))
  writable := writable
  beyond := fun _ => 0
  freshRcv := blankPkt
  freshNack := blankPkt
  freshAck := blankPkt

/-- The two sides at the start of a transfer. -/
def startNetwork (file : List UInt8) : Network := ⟨startSender file, Receiver.init fun _ => 0⟩

/-- A copy of packet 0 that arrives before the flush is dropped. -/
theorem outputPrefix_copy : ∃ n : Network, n.receiver.stdout = [[65]] ∧
    n.receiver.stdout.flatten <+: [65] := by
  obtain ⟨n, hrun, hview⟩ := exists_run_of_follow (networkStep zlibCrc32)
    (fun _ n e => ReceivesInPlace zlibCrc32 [65] n e) (startNetwork [65])
    [.sender writePoll, .receiver (dataPoll [65] 0 .idle), .receiver (dataPoll [65] 0 .pollout)]
    (fun n => n.receiver.stdout) (show _ = some [[65]] by decide +kernel)
  exact ⟨n, hview, outputPrefix_of_run zlibCrc32 [65] (fun _ => 0) blankPkt 0 blankFill _
    (init_startSender [65]) (fun _ => 0) _ n hrun⟩

/-- **A copy of packet 0 behind the flush is written again.**  The file is one byte; packet 0 is
sent, read and flushed, and a copy of it is read and flushed. -/
theorem not_outputPrefix :
    ¬ ∀ (file : List UInt8) (buffer : Memory) (freshAck : Pkt) (clockAck : UInt32)
      (fill : FillInputs) (s₀ : Sender),
      Sender.init zlibCrc32 file buffer freshAck clockAck fill = some s₀ →
      ∀ (bufferR : Memory) (es : List Event) (n : Network),
        Run (networkStep zlibCrc32) (fun _ n e => LossyLink n e) ⟨s₀, Receiver.init bufferR⟩ es n →
        n.receiver.stdout.flatten <+: file := by
  intro h
  obtain ⟨n, hrun, hview⟩ := exists_run_of_follow (networkStep zlibCrc32)
    (fun _ n e => LossyLink n e) (startNetwork [65])
    [.sender writePoll, .receiver (dataPoll [65] 0 .pollout), .receiver (dataPoll [65] 0 .pollout)]
    (fun n => n.receiver.stdout) (show _ = some [[65], [65]] by decide +kernel)
  have hfront := h [65] (fun _ => 0) blankPkt 0 blankFill _ (init_startSender [65]) (fun _ => 0)
    _ n hrun
  rw [hview] at hfront
  exact absurd hfront.length_le (by decide)

end TrtpNetwork
