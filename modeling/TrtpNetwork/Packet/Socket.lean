import TrtpNetwork.Packet.RoundTrip

/-!
# Reading a datagram

Both programs poll one socket for input and for output, read into a buffer of 512 bytes on the
stack, and hand the whole buffer to `pkt_decode` whatever the length of the datagram was.  This
file has the two `revents`, the buffer after a `read`, and the decoding of it.  What lies behind the
buffer is given from outside, so that a read there gives some byte; in `Packet.Confined` it has no
outcome.

`decodeRead_encoding` is what a datagram made by `pkt_encode` turns into: the packet, unless the
512 bytes were too few for it.
-/

namespace TrtpNetwork

/-- `MAX_BUFFER_SIZE`. -/
def maxBufferSize : ℕ := 512

/-- The result of `read`. -/
inductive ReadResult where
  | error
  | bytes (datagram : List UInt8)
  deriving DecidableEq

/-- `revents` of the entry polled for input. -/
inductive Readable where
  | idle
  | pollin (result : ReadResult)
  | other
  deriving DecidableEq

/-- What is read, if anything is. -/
def Readable.result : Readable → Option ReadResult
  | .pollin result => some result
  | _ => none

theorem Readable.result_eq_some_iff {readable : Readable} {result : ReadResult} :
    readable.result = some result ↔ readable = .pollin result := by
  cases readable <;> simp [Readable.result]

/-- `revents` of the entry polled for output. -/
inductive Writable where
  | idle
  | pollout
  | other
  deriving DecidableEq

/-- The buffer after `read(sfd, buffer, 512)`. -/
def readInto (buffer : Memory) : ReadResult → Memory
  | .error => buffer
  | .bytes datagram => memcpy buffer 0 (datagram.take maxBufferSize)

/-- What a pointer to the buffer shows: its 512 bytes, then what lies behind it. -/
def bufferView (buffer beyond : Memory) : Memory :=
  fun i => if i < maxBufferSize then buffer i else beyond i

variable (crc32 : List UInt8 → UInt32)

/-- `pkt_decode` on the buffer after a `read`, of whose 512 bytes all are taken to be received. -/
def decodeRead (buffer : Memory) (result : ReadResult) (beyond : Memory) (fresh : Pkt) :
    PktStatusCode × Pkt :=
  pktDecode crc32 true (bufferView (readInto buffer result) beyond) maxBufferSize fresh

theorem startsWith_bufferView {datagram : List UInt8} (h : datagram.length ≤ maxBufferSize)
    (buffer beyond : Memory) :
    StartsWith (bufferView (readInto buffer (.bytes datagram)) beyond) datagram := by
  intro i hi
  rw [bufferView, if_pos (by omega), readInto, List.take_of_length_le h]
  exact startsWith_memcpy buffer datagram i hi

/-- Reading an encoded packet of at most 496 bytes of payload gives this packet, whatever the
buffer held before and whatever lies behind it. -/
theorem decodeRead_encoding {pkt : Pkt} {payload : List UInt8}
    (hcontent : pkt.content = some payload) (htr : pkt.tr = 0) (hlen : payload.length ≤ 496)
    (buffer beyond : Memory) (fresh : Pkt) :
    decodeRead crc32 buffer (.bytes (encoding crc32 pkt payload)) beyond fresh =
      (.pktOk, decodedPkt crc32 true pkt payload fresh) := by
  have hpl : payload.length = pkt.length.toNat := Payload.length_of_read hcontent
  have hsize : (encoding crc32 pkt payload).length ≤ maxBufferSize :=
    (length_encoding_le crc32 pkt payload).trans (by unfold maxBufferSize; omega)
  exact pktDecode_of_startsWith crc32 hcontent htr (by omega)
    (startsWith_bufferView hsize buffer beyond) (by decide) true fresh

end TrtpNetwork
