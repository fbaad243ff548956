import TrtpNetwork.Packet.Overread

/-!
# The 512 bytes of a buffer

A packet may carry 512 bytes of payload, its encoding has 16 bytes more, and the buffers of both
loops have 512.  Nothing in between compares these numbers.  `pkt_encode` does not read the capacity
it is passed and fills the buffer, and what lies behind it, with the whole encoding
(`respectsCapacity_iff`).  On the other side `read` cuts the datagram off at 512 bytes, and
`pkt_decode` takes the rest from the memory behind the buffer (`acceptsDatagram_iff`).  Both work
for payloads of at most 496 bytes, among them all of this sender's, which have at most 488.
-/

namespace TrtpNetwork

variable (crc32 : List UInt8 → UInt32)

/-! ## Encoding -/

/-- The number of bytes of the encoding. -/
def encodedSize (pkt : Pkt) : ℕ := if pkt.length = 0 then 12 else 16 + pkt.length.toNat

/-- With a capacity of `c`, either the buffer receives as many bytes as `*len` says, at most `c`,
and nothing else of it changes; or the status is `E_NOMEM`, which is the case exactly when the
encoding has more than `c` bytes, and nothing from index `c` on changes. -/
def RespectsCapacity (pkt : Pkt) (c : ℕ) : Prop :=
  ∃ bytes : List UInt8, ∀ buf : Memory, ∃ e, pktEncode crc32 pkt buf c = some e ∧
    (e.status = .pktOk ∧ e.len = bytes.length ∧ e.len ≤ c ∧ e.buf = memcpy buf 0 bytes ∨
      e.status = .eNomem ∧ ∀ i, c ≤ i → e.buf i = buf i) ∧
    (e.status = .eNomem ↔ c < encodedSize pkt)

theorem length_encoding_eq_encodedSize {pkt : Pkt} {payload : List UInt8}
    (h : pkt.content = some payload) :
    (encoding crc32 pkt payload).length = encodedSize pkt := by
  have hlen : payload.length = pkt.length.toNat := Payload.length_of_read h
  have hiff : payload = [] ↔ pkt.length = 0 := by
    rw [← List.length_eq_zero_iff, hlen, ← UInt16.toNat_inj]
    rfl
  rw [length_encoding, encodedSize, hlen]
  simp only [hiff]

/-- A payload that is not there is not encoded. -/
theorem pktEncode_of_content_none {pkt : Pkt} (h : pkt.content = none) (buf : Memory) (len : ℕ) :
    pktEncode crc32 pkt buf len = none := by
  have hpos : pkt.length > 0 := by
    refine UInt16.pos_iff_ne_zero.mpr fun hzero => ?_
    have hread : pkt.content = some [] := by simp [Pkt.content, Payload.read, hzero]
    rw [hread] at h
    cases h
  rw [pktEncode]
  simp [hpos, h]

/-- **When `pkt_encode` respects the capacity.**  For every packet whose payload can be read,
exactly if the encoding fits. -/
theorem respectsCapacity_iff (pkt : Pkt) (c : ℕ) :
    RespectsCapacity crc32 pkt c ↔ pkt.content ≠ none ∧ encodedSize pkt ≤ c := by
  constructor
  · rintro ⟨bytes, h⟩
    obtain ⟨e, he, hcases, hnomem⟩ := h fun _ => 0
    cases hcontent : pkt.content with
    | none =>
      rw [pktEncode_of_content_none crc32 hcontent] at he
      cases he
    | some payload =>
      obtain rfl := Option.some.inj ((pktEncode_eq crc32 hcontent _ _).symm.trans he)
      refine ⟨by simp, Nat.not_lt.mp fun hlt => ?_⟩
      -- `E_NOMEM` is never returned
      exact absurd (hnomem.mpr hlt) (by simp)
  · rintro ⟨hne, hle⟩
    obtain ⟨payload, hcontent⟩ := Option.ne_none_iff_exists'.mp hne
    have hsize := length_encoding_eq_encodedSize crc32 hcontent
    refine ⟨encoding crc32 pkt payload, fun buf => ⟨_, pktEncode_eq crc32 hcontent buf c, ?_, ?_⟩⟩
    · exact Or.inl ⟨rfl, rfl, by rw [hsize]; exact hle, rfl⟩
    · simp only [reduceCtorEq, false_iff]
      omega

/-- A data packet with 500 zeros for a payload. -/
def fiveHundred : Pkt :=
  { blankPkt with type := .data, length := 500, payload := .block (List.replicate 500 0) }

theorem content_fiveHundred : fiveHundred.content = some (List.replicate 500 0) := by
  decide +kernel

/-- **The buffers of both loops are overrun** by four bytes when 500 bytes of payload are encoded
into them, and the status is `PKT_OK`. -/
theorem not_respectsCapacity :
    ¬ ∀ (pkt : Pkt) (c : ℕ), pkt.length.toNat ≤ 512 → pkt.content ≠ none →
      RespectsCapacity zlibCrc32 pkt c := by
  intro h
  obtain ⟨bytes, hbytes⟩ := h fiveHundred maxBufferSize (by decide)
    (by rw [content_fiveHundred]; exact fun hnone => by cases hnone)
  obtain ⟨e, he, -, hnomem⟩ := hbytes fun _ => 0
  obtain rfl := Option.some.inj
    ((pktEncode_eq zlibCrc32 content_fiveHundred _ _).symm.trans he)
  exact absurd (hnomem.mpr (by decide)) (by simp)

/-! ## Receiving -/

/-- The datagram `pkt_encode` makes of the packet is read and decoded to the same header fields and
the same payload, whatever the buffer held, whatever lies behind it, and whatever the structure
held. -/
def AcceptsDatagram (pkt : Pkt) (payload : List UInt8) : Prop :=
  ∀ (buf : Memory) (cap : ℕ) (e : Encoded), pktEncode crc32 pkt buf cap = some e →
    ∀ (buffer beyond : Memory) (fresh : Pkt), ∃ q,
      decodeRead crc32 buffer (.bytes (bytesAt e.buf 0 e.len)) beyond fresh = (.pktOk, q) ∧
        q.type = pkt.type ∧ q.tr = pkt.tr ∧ q.window = pkt.window ∧ q.length = pkt.length ∧
        q.seqnum = pkt.seqnum ∧ q.timestamp = pkt.timestamp ∧ q.content = some payload

section Receiving

variable {crc32} {pkt : Pkt} {payload : List UInt8}

/-- What is sent is the encoding, of any length. -/
theorem bytesAt_encoded (hcontent : pkt.content = some payload) {buf : Memory} {cap : ℕ}
    {e : Encoded} (he : pktEncode crc32 pkt buf cap = some e) :
    bytesAt e.buf 0 e.len = encoding crc32 pkt payload := by
  obtain rfl := Option.some.inj ((pktEncode_eq crc32 hcontent buf cap).symm.trans he)
  exact bytesAt_memcpy buf 0 (encoding crc32 pkt payload)

/-- The memory behind the buffer in which the cut off part of a datagram is found, with its last
byte another. -/
def brokenRest (datagram : List UInt8) : Memory :=
  flipByte (memcpy (fun _ => 0) 0 datagram) (datagram.length - 1)

/-- With this behind the buffer, a datagram of more than 512 bytes is seen as it was sent, up to the
last byte. -/
theorem bufferView_brokenRest {datagram : List UInt8} (hlong : maxBufferSize < datagram.length)
    (buffer : Memory) {i : ℕ} (hi : i < datagram.length - 1) :
    memcpy (fun _ => 0) 0 datagram i =
      bufferView (readInto buffer (.bytes datagram)) (brokenRest datagram) i := by
  rw [bufferView]
  split
  · rw [readInto, memcpy_of_mem (Nat.zero_le i) (by omega),
      memcpy_of_mem (Nat.zero_le i) (by rw [List.length_take]; omega)]
    simp
  · rw [brokenRest, flipByte_of_ne hi.ne]

/-- **A datagram of more than 512 bytes is not always accepted.** -/
theorem exists_beyond_of_long (crc32 : List UInt8 → UInt32) (hdata : pkt.type = .data)
    (hcontent : pkt.content = some payload) (h512 : pkt.length.toNat ≤ 512)
    (hlong : 496 < pkt.length.toNat) (buffer : Memory) (fresh : Pkt) :
    ∃ beyond, (decodeRead crc32 buffer (.bytes (encoding crc32 pkt payload)) beyond fresh).1 ≠
      .pktOk := by
  have hpl : payload.length = pkt.length.toNat := Payload.length_of_read hcontent
  have hne : payload ≠ [] := by
    rintro rfl
    rw [List.length_nil] at hpl
    omega
  have hsize : (encoding crc32 pkt payload).length = 16 + pkt.length.toNat := by
    rw [length_encoding, if_neg hne, hpl]
  have hstart : StartsWith (memcpy (fun _ => 0) 0 (encoding crc32 pkt payload))
      (encoding crc32 pkt payload) := startsWith_memcpy _ _
  have hok := pktDecode_of_goodType crc32 hcontent (Or.inr hdata) h512 hstart
    (show 8 ≤ maxBufferSize by decide) true fresh
  have hstored : (storedLength (memcpy (fun _ => 0) 0 (encoding crc32 pkt payload)) fresh).toNat =
      pkt.length.toNat := by
    have hwire := Wire.length_of_startsWith hstart
    rw [toNat_storedLength (hwire.trans_le h512), hwire]
  have hlong' : maxBufferSize < (encoding crc32 pkt payload).length := by
    rw [hsize]
    unfold maxBufferSize
    omega
  refine ⟨brokenRest (encoding crc32 pkt payload), ?_⟩
  refine pktDecode_lastByteChanged (by rw [hok])
    (Or.inr ⟨by rw [hstored]; omega, rfl⟩) ?_ fun j hj => ?_
  · have hlast : 16 + pkt.length.toNat - 1 = 15 + pkt.length.toNat := by omega
    rw [hstored, bufferView, if_neg (by unfold maxBufferSize; omega), brokenRest, hsize, hlast]
    exact flipByte_self_ne _ _
  · rw [hstored] at hj
    exact bufferView_brokenRest hlong' buffer (by rw [hsize]; omega)

end Receiving

/-- **Which data packets the receive path accepts.**  Of the payloads of up to 512 bytes, exactly
those of at most 496. -/
theorem acceptsDatagram_iff (pkt : Pkt) (payload : List UInt8) (hdata : pkt.type = .data)
    (hcontent : pkt.content = some payload) (h512 : pkt.length.toNat ≤ 512) :
    AcceptsDatagram crc32 pkt payload ↔ pkt.length.toNat ≤ 496 := by
  have hpl : payload.length = pkt.length.toNat := Payload.length_of_read hcontent
  constructor
  · intro h
    by_contra hlong
    obtain ⟨beyond, hbad⟩ := exists_beyond_of_long crc32 hdata hcontent h512
      (Nat.not_le.mp hlong) (fun _ => 0) blankPkt
    have he := pktEncode_eq crc32 hcontent (fun _ => 0) maxBufferSize
    obtain ⟨q, hq, -⟩ := h _ _ _ he (fun _ => 0) beyond blankPkt
    rw [bytesAt_encoded hcontent he] at hq
    rw [hq] at hbad
    exact hbad rfl
  · intro hle buf cap e he buffer beyond fresh
    have hsize : (encoding crc32 pkt payload).length ≤ maxBufferSize :=
      (length_encoding_le crc32 pkt payload).trans (by unfold maxBufferSize; omega)
    have hdec : decodeRead crc32 buffer (.bytes (encoding crc32 pkt payload)) beyond fresh =
        (.pktOk, decodedPkt crc32 true pkt payload fresh) :=
      pktDecode_of_goodType crc32 hcontent (Or.inr hdata) h512
        (startsWith_bufferView hsize buffer beyond) (by decide) true fresh
    rw [bytesAt_encoded hcontent he]
    exact ⟨_, hdec, rfl, rfl, rfl, rfl, rfl, rfl, content_decodedPkt crc32 fresh hcontent⟩

/-- A packet of three bytes is accepted. -/
theorem acceptsDatagram_threeBytes : AcceptsDatagram zlibCrc32 threeBytes [10, 20, 30] :=
  (acceptsDatagram_iff zlibCrc32 threeBytes [10, 20, 30] rfl content_threeBytes (by decide)).mpr
    (by decide)

/-- **A packet of 500 bytes is turned away** when the right bytes do not happen to lie behind the
buffer. -/
theorem not_acceptsDatagram :
    ¬ ∀ (pkt : Pkt) (payload : List UInt8), pkt.type = .data → 0 < pkt.length.toNat →
      pkt.length.toNat ≤ 512 → pkt.content = some payload →
      AcceptsDatagram zlibCrc32 pkt payload := by
  intro h
  obtain ⟨beyond, hbad⟩ := exists_beyond_of_long zlibCrc32 rfl content_fiveHundred
    (by decide) (by decide) (fun _ => 0) blankPkt
  have he := pktEncode_eq zlibCrc32 content_fiveHundred (fun _ => 0) maxBufferSize
  obtain ⟨q, hq, -⟩ := h fiveHundred (List.replicate 500 0) rfl (by decide) (by decide)
    content_fiveHundred _ _ _ he (fun _ => 0) beyond blankPkt
  rw [bytesAt_encoded content_fiveHundred he] at hq
  rw [hq] at hbad
  exact hbad rfl

end TrtpNetwork
