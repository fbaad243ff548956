import TrtpNetwork.Packet.Basic
import Mathlib.Data.Int.Notation

/-!
# `pkt_encode`, `pkt_decode` and `put_on_pkt`

The two directions of the wire format, statement by statement, over the memory the buffer pointer
shows.  `crc32` is zlib's function and a parameter throughout: of the two nested calls of the
source, the inner one only fetches the initial value, so what is computed is one function of the
bytes.  `malloc` says whether the allocation of a payload succeeds.

Things the source does that a reader may not expect, and that are kept:

* `pkt_encode` never reads the capacity it is given in `*len`.
* `pkt_decode` compares `len` with 8 once and then reads bytes 8 to 11, and, where the length field
  asks for it, a payload and its CRC, wherever they end.
* `pkt_decode` sets the length through `pkt_set_length`, which refuses values over 512 and leaves
  the field as the caller's structure had it; the test that follows is on the stored field.
* The header CRC is taken over the bytes as received, the TR bit included.
-/

namespace TrtpNetwork

variable (crc32 : List UInt8 → UInt32)

/-- What `pkt_encode` gives back: its status, the buffer, and `*len`. -/
structure Encoded where
  status : PktStatusCode
  buf : Memory
  len : ℕ

/-- `pkt_encode`.  `none` is an undefined read of the payload. -/
def pktEncode (pkt : Pkt) (buf : Memory) (_len : ℕ) : Option Encoded :=
  -- TYPE + TR + WINDOW
  let buf := memcpy buf 0
    [UInt8.ofNat ((pkt.type.toBits <<< 6) + (pkt.tr.val <<< 5) + pkt.window.val)]
  -- LENGTH, in network order
  let buf := memcpy buf 1 (beBytes 2 pkt.length.toNat)
  -- SEQNUM
  let buf := memcpy buf 3 [pkt.seqnum]
  -- TIMESTAMP, as the host stores it
  let buf := memcpy buf 4 (leBytes 4 pkt.timestamp.toNat)
  -- CRC1
  let crc1 := crc32 (bytesAt buf 0 8)
  let buf := memcpy buf 8 (beBytes 4 crc1.toNat)
  if pkt.length > 0 then do
    -- PAYLOAD and CRC2
    let payload ← pkt.content
    let buf := memcpy buf 12 payload
    let crc2 := crc32 payload
    let buf := memcpy buf (12 + pkt.length.toNat) (beBytes 4 crc2.toNat)
    some ⟨.pktOk, buf, 16 + pkt.length.toNat⟩
  else
    some ⟨.pktOk, buf, 12⟩

/-- `pkt_decode`. -/
def pktDecode (malloc : Bool) (data : Memory) (len : ℕ) (pkt : Pkt) : PktStatusCode × Pkt :=
  if len < 8 then (.eNoheader, pkt) else
  let pkt := (pktSetType pkt ((data 0 &&& 0xC0) >>> 6).toNat).2
  let pkt := (pktSetTr pkt ((data 0 &&& 0x20) >>> 5)).2
  if pkt.tr ≠ 0 ∧ pkt.type ≠ .data then (.eType, pkt) else
  let pkt := (pktSetWindow pkt (data 0 &&& 0x1F)).2
  let pkt := (pktSetLength pkt (UInt16.ofNat (ofBeBytes (bytesAt data 1 2)))).2
  if pkt.length > 512 then (.eLength, pkt) else
  let pkt := (pktSetSeqnum pkt (data 3)).2
  let pkt := (pktSetTimestamp pkt (UInt32.ofNat (ofLeBytes (bytesAt data 4 4)))).2
  let myCrc1 := crc32 (bytesAt data 0 8)
  let pkt := (pktSetCrc1 pkt (UInt32.ofNat (ofBeBytes (bytesAt data 8 4)))).2
  if myCrc1 ≠ pkt.crc1 then (.eCrc, pkt) else
  if pkt.length > 0 then
    let myCrc2 := crc32 (bytesAt data 12 pkt.length.toNat)
    let nCrc2 := ofBeBytes (bytesAt data (12 + pkt.length.toNat) 4)
    let pkt := (pktSetCrc2 pkt (UInt32.ofNat nCrc2)).2
    if pkt.crc2 ≠ myCrc2 then (.eCrc, pkt)
    else (.pktOk, (pktSetPayload malloc pkt (fun i => data (12 + i)) pkt.length).2)
  else (.pktOk, pkt)

/-- The conversion of an `int` argument to `uint8_t`. -/
def toUint8 (z : ℤ) : UInt8 := UInt8.ofNat (z % 256).toNat

/-- The conversion of an `int` argument to `uint16_t`. -/
def toUint16 (z : ℤ) : UInt16 := UInt16.ofNat (z % 65536).toNat

/-- `put_on_pkt`: a packet filled from the arguments and encoded into `buf`.  `fresh` is what
`pkt_new` returned, `payload = none` is the argument `NULL`. -/
def putOnPkt (fresh : Pkt) (buf : Memory) (payload : Option Memory)
    (seqnum window length type : ℤ) (len : ℕ) (timestamp : UInt32) : Option (Pkt × Encoded) := do
  let pkt := fresh
  let pkt := (pktSetTr pkt 0).2
  let pkt := (pktSetWindow pkt (toUint8 window)).2
  let pkt := (pktSetLength pkt (toUint16 length)).2
  let pkt := (pktSetTimestamp pkt timestamp).2
  let pkt := if type = 0 then (pktSetType pkt Ptypes.data.toBits).2 else pkt
  let pkt ← if type = 0 ∧ length > 0 then
      payload.map fun data => (pktSetPayload true pkt data (toUint16 length)).2
    else some pkt
  let pkt := if type = 1 then (pktSetType pkt Ptypes.ack.toBits).2 else pkt
  let pkt := if type = 2 then (pktSetType pkt Ptypes.nack.toBits).2 else pkt
  let pkt := (pktSetSeqnum pkt (toUint8 seqnum)).2
  let encoded ← pktEncode crc32 pkt buf len
  some (pkt, encoded)

/-! ## The bytes `pkt_encode` writes -/

/-- The eight bytes the header CRC covers. -/
def header (pkt : Pkt) : List UInt8 :=
  UInt8.ofNat ((pkt.type.toBits <<< 6) + (pkt.tr.val <<< 5) + pkt.window.val) ::
    (beBytes 2 pkt.length.toNat ++ pkt.seqnum :: leBytes 4 pkt.timestamp.toNat)

/-- The payload section: nothing for an empty payload, else the payload and its CRC. -/
def payloadSection (payload : List UInt8) : List UInt8 :=
  if payload = [] then [] else payload ++ beBytes 4 (crc32 payload).toNat

/-- The datagram for a packet with the given payload. -/
def encoding (pkt : Pkt) (payload : List UInt8) : List UInt8 :=
  header pkt ++ beBytes 4 (crc32 (header pkt)).toNat ++ payloadSection crc32 payload

@[simp] theorem length_header (pkt : Pkt) : (header pkt).length = 8 := by
  simp [header]

theorem length_payloadSection (payload : List UInt8) :
    (payloadSection crc32 payload).length = if payload = [] then 0 else payload.length + 4 := by
  unfold payloadSection
  split <;> simp

theorem length_encoding (pkt : Pkt) (payload : List UInt8) :
    (encoding crc32 pkt payload).length = if payload = [] then 12 else 16 + payload.length := by
  rw [encoding, List.length_append, List.length_append, length_header, length_beBytes,
    length_payloadSection]
  split <;> omega

theorem length_encoding_le (pkt : Pkt) (payload : List UInt8) :
    (encoding crc32 pkt payload).length ≤ 16 + payload.length := by
  rw [length_encoding]
  split <;> omega

/-- A defined read yields as many bytes as were asked for. -/
theorem Payload.length_of_read {p : Payload} {n : ℕ} {bytes : List UInt8}
    (h : p.read n = some bytes) : bytes.length = n := by
  unfold Payload.read at h
  split at h
  · obtain rfl := Option.some.inj h
    exact (by assumption : n = 0).symm
  · split at h
    · split at h
      · obtain rfl := Option.some.inj h
        rw [List.length_take]
        omega
      · cases h
    · cases h

/-- The four header writes of `pkt_encode`, joined. -/
theorem memcpy_header (pkt : Pkt) (buf : Memory) :
    memcpy (memcpy (memcpy (memcpy buf 0
      [UInt8.ofNat ((pkt.type.toBits <<< 6) + (pkt.tr.val <<< 5) + pkt.window.val)])
      1 (beBytes 2 pkt.length.toNat)) 3 [pkt.seqnum]) 4 (leBytes 4 pkt.timestamp.toNat) =
    memcpy buf 0 (header pkt) := by
  have h1 := memcpy_memcpy buf 0
    [UInt8.ofNat ((pkt.type.toBits <<< 6) + (pkt.tr.val <<< 5) + pkt.window.val)]
    (beBytes 2 pkt.length.toNat)
  have h2 := memcpy_memcpy buf 0
    ([UInt8.ofNat ((pkt.type.toBits <<< 6) + (pkt.tr.val <<< 5) + pkt.window.val)] ++
      beBytes 2 pkt.length.toNat) [pkt.seqnum]
  have h3 := memcpy_memcpy buf 0
    ([UInt8.ofNat ((pkt.type.toBits <<< 6) + (pkt.tr.val <<< 5) + pkt.window.val)] ++
      beBytes 2 pkt.length.toNat ++ [pkt.seqnum]) (leBytes 4 pkt.timestamp.toNat)
  simp only [List.length_append, length_beBytes, List.length_singleton, Nat.zero_add,
    Nat.reduceAdd] at h1 h2 h3
  rw [h1, h2, h3]
  simp [header]

/-- **What `pkt_encode` writes.**  It succeeds whenever the payload can be read, fills the buffer
with `encoding` and reports its length; the capacity plays no part. -/
theorem pktEncode_eq {pkt : Pkt} {payload : List UInt8} (h : pkt.content = some payload)
    (buf : Memory) (len : ℕ) :
    pktEncode crc32 pkt buf len =
      some ⟨.pktOk, memcpy buf 0 (encoding crc32 pkt payload),
        (encoding crc32 pkt payload).length⟩ := by
  have hlen : payload.length = pkt.length.toNat := Payload.length_of_read h
  have hread : bytesAt (memcpy buf 0 (header pkt)) 0 8 = header pkt := by
    rw [← length_header pkt]
    exact bytesAt_memcpy ..
  have hcrc : memcpy (memcpy buf 0 (header pkt)) 8 (beBytes 4 (crc32 (header pkt)).toNat) =
      memcpy buf 0 (header pkt ++ beBytes 4 (crc32 (header pkt)).toNat) := by
    rw [← memcpy_memcpy, length_header]
  rw [pktEncode]
  simp only [memcpy_header, hread, hcrc]
  by_cases hz : pkt.length > 0
  · have hpos : 0 < pkt.length.toNat := by
      simpa [UInt16.lt_iff_toNat_lt] using hz
    have hne : payload ≠ [] := by
      rintro rfl
      rw [List.length_nil] at hlen
      omega
    have hjoin : memcpy (memcpy (memcpy buf 0
        (header pkt ++ beBytes 4 (crc32 (header pkt)).toNat)) 12 payload)
        (12 + pkt.length.toNat) (beBytes 4 (crc32 payload).toNat) =
        memcpy buf 0 (encoding crc32 pkt payload) := by
      have h1 := memcpy_memcpy buf 0
        (header pkt ++ beBytes 4 (crc32 (header pkt)).toNat) payload
      have h2 := memcpy_memcpy buf 0
        (header pkt ++ beBytes 4 (crc32 (header pkt)).toNat ++ payload)
        (beBytes 4 (crc32 payload).toNat)
      simp only [List.length_append, length_header, length_beBytes, Nat.zero_add,
        Nat.reduceAdd] at h1 h2
      rw [h1, ← hlen, h2, encoding, payloadSection, if_neg hne, List.append_assoc _ payload]
    rw [if_pos hz, h]
    simp only [Option.bind_eq_bind, Option.bind_some]
    rw [hjoin, length_encoding, if_neg hne, hlen]
  · have hnil : payload = [] := by
      have : ¬ 0 < pkt.length.toNat := by simpa [UInt16.lt_iff_toNat_lt] using hz
      exact List.length_eq_zero_iff.mp (by omega)
    rw [if_neg hz, length_encoding, if_pos hnil, encoding, payloadSection, if_pos hnil,
      List.append_nil]

end TrtpNetwork
