import TrtpNetwork.Packet.PutOnPkt

/-!
# Streams of payloads

What is transferred is a stream of payloads, one for each position.  `IsStreamPacket stream i pkt`
says that a structure is the data packet for position `i`: its number is `i` modulo 256 and its
payload is the one of the stream.

The stream the sender makes of a file is `chunk file`: pieces of 488 bytes, a shorter one at the
end, and empty ones from then on.  Its payloads in order are the file (`flatten_chunks`).
-/

namespace TrtpNetwork

/-- `MAX_BUFFER_SIZE - sizeof(pkt_t)`, the bytes of input in a packet. -/
def chunkSize : ℕ := 488

variable (stream : ℕ → List UInt8)

/-- The packet is packet `i` of the stream. -/
def IsStreamPacket (i : ℕ) (pkt : Pkt) : Prop :=
  pkt.type = .data ∧ pkt.seqnum.toNat = i % 256 ∧ pkt.content = some (stream i)

instance (i : ℕ) (pkt : Pkt) : Decidable (IsStreamPacket stream i pkt) := by
  unfold IsStreamPacket
  infer_instance

variable {stream}

theorem IsStreamPacket.length_eq_zero_iff {i : ℕ} {pkt : Pkt} (h : IsStreamPacket stream i pkt) :
    pkt.length = 0 ↔ stream i = [] := by
  have hlen := Payload.length_of_read h.2.2
  rw [← UInt16.toNat_inj, ← List.length_eq_zero_iff, hlen]
  rfl

/-- The packet `put_on_pkt` makes of the payload at position `i`. -/
theorem isStreamPacket_dataPkt {i : ℕ} (h : (stream i).length ≤ 512) (fresh : Pkt) (window : ℤ)
    (timestamp : UInt32) : IsStreamPacket stream i (dataPkt fresh (stream i) i window timestamp) :=
  ⟨rfl, toNat_toUint8_natCast i, content_dataPkt h fresh i window timestamp⟩

/-! ## The chunks of a file -/

/-- The payload at position `i` of the stream made of a file. -/
def chunk (file : List UInt8) (i : ℕ) : List UInt8 := (file.drop (chunkSize * i)).take chunkSize

theorem length_chunk_le (file : List UInt8) (i : ℕ) : (chunk file i).length ≤ chunkSize :=
  List.length_take_le ..

/-- A chunk is empty exactly when the file ends before it. -/
theorem chunk_eq_nil_iff {file : List UInt8} {i : ℕ} :
    chunk file i = [] ↔ file.length ≤ chunkSize * i := by
  rw [chunk, List.take_eq_nil_iff, List.drop_eq_nil_iff]
  exact or_iff_right (by decide)

/-- The first `n` chunks are the front of the file. -/
theorem flatten_chunks (file : List UInt8) (n : ℕ) :
    ((List.range n).map (chunk file)).flatten = file.take (chunkSize * n) := by
  induction n with
  | zero => simp
  | succ n ih =>
    rw [List.range_succ, List.map_append, List.flatten_append, ih, Nat.mul_succ, List.take_add]
    simp [chunk]

end TrtpNetwork
