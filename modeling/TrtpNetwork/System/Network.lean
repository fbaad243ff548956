import TrtpNetwork.Receiver.Deliveries
import TrtpNetwork.Sender.Genuine

/-!
# The two programs and the link between them

A state of the system is a state of each loop.  Everything either side ever handed to `write` is in
its log, so the link needs no state of its own: a poll iteration of one side comes with the datagram
it reads, and what a link may do is a condition on which datagrams these are, to be found in the log
of the other side.

Nothing is assumed about the link here.  `FromSender` says that what the receiver reads was sent,
and `readsPacket_of_sent` that it then reads a packet of the file, whichever copy of whichever
transmission it is.
-/

namespace TrtpNetwork

/-- A state of the sender and one of the receiver. -/
structure Network where
  sender : Sender
  receiver : Receiver

/-- A poll iteration of one of the two. -/
inductive Event where
  | sender (e : SenderPoll)
  | receiver (e : ReceiverPoll)

variable (crc32 : List UInt8 → UInt32)

/-- One iteration of the side whose event it is. -/
def networkStep (n : Network) : Event → Option Network
  | .sender e => (readWriteLoopSender crc32 n.sender e).map fun s => { n with sender := s }
  | .receiver e => (readWriteLoop crc32 n.receiver e).map fun r => { n with receiver := r }

/-- The result of `read` is the datagram of a call of `write` the sender made for this position. -/
def FromSender (s : Sender) (result : ReadResult) (w : Transmission) : Prop :=
  w ∈ s.written ∧ result = .bytes w.datagram

instance (s : Sender) (result : ReadResult) (w : Transmission) :
    Decidable (FromSender s result w) := by
  unfold FromSender
  infer_instance

variable {crc32} {file : List UInt8} {n n' : Network}

/-- **Whatever was sent is a packet of the file** to the receiver that reads it. -/
theorem readsPacket_of_sent {s : Sender} (h : Genuine crc32 file s) {e : ReceiverPoll}
    {result : ReadResult} {w : Transmission} (he : e.readable = .pollin result)
    (hw : FromSender s result w) (r : Receiver) :
    ReadsPacket crc32 (chunk file) r (e, w.position) := by
  obtain ⟨hmem, rfl⟩ := hw
  obtain ⟨pkt, ⟨⟨htype, hseq, hcontent⟩, htr⟩, hdatagram⟩ := h.sent w hmem
  intro result' hresult
  obtain rfl := Readable.pollin.inj (he.symm.trans hresult)
  have hlen : (chunk file w.position).length ≤ 496 :=
    (length_chunk_le file w.position).trans (by decide)
  have hdecode := decodeRead_encoding crc32 hcontent htr hlen r.buffer e.beyond e.freshRcv
  rw [← hdatagram] at hdecode
  simp only [hdecode]
  exact ⟨trivial, htype, hseq, content_decodedPkt crc32 e.freshRcv hcontent⟩

/-- **Every iteration keeps the sender's heap and log genuine**, whatever the link does. -/
theorem Genuine.networkStep {e : Event} (h : Genuine crc32 file n.sender)
    (hstep : networkStep crc32 n e = some n') : Genuine crc32 file n'.sender := by
  rcases e with e | e
  · obtain ⟨s, hs, rfl⟩ := Option.map_eq_some_iff.mp hstep
    exact h.step hs
  · obtain ⟨r, -, rfl⟩ := Option.map_eq_some_iff.mp hstep
    exact h

end TrtpNetwork
