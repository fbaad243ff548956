import TrtpNetwork.Library.Crc32
import TrtpNetwork.Packet.Exits

/-!
# Decoding undoes encoding

A buffer that begins with the bytes `pkt_encode` wrote has every field of the packet where
`pkt_decode` looks for it (`Wire.type_of_startsWith` and its companions).  The rest of the buffer
and the structure handed to `pkt_decode` do not matter: `pktDecode_of_startsWith` gives the decoded
structure in full, with the parts that come from the caller shown as such.
-/

namespace TrtpNetwork

variable (crc32 : List UInt8 → UInt32)

/-- The buffer begins with these bytes; what follows is arbitrary. -/
def StartsWith (data : Memory) (bytes : List UInt8) : Prop :=
  ∀ (i : ℕ) (hi : i < bytes.length), data i = bytes[i]

theorem startsWith_memcpy (m : Memory) (bytes : List UInt8) :
    StartsWith (memcpy m 0 bytes) bytes :=
  fun _ hi => memcpy_of_mem (Nat.zero_le _) hi

theorem StartsWith.congr {data data' : Memory} {bytes : List UInt8} (h : StartsWith data bytes)
    (hd : ∀ i < bytes.length, data' i = data i) : StartsWith data' bytes :=
  fun i hi => (hd i hi).trans (h i hi)

/-! ## The fields of an encoded packet -/

section Fields

variable {crc32} {data : Memory} {pkt : Pkt} {payload : List UInt8}

/-- Where a read of `n` bytes at `off` falls in the encoding. -/
theorem StartsWith.bytesAt (h : StartsWith data (encoding crc32 pkt payload)) {off n : ℕ}
    (hn : off + n ≤ (encoding crc32 pkt payload).length) :
    bytesAt data off n = ((encoding crc32 pkt payload).drop off).take n :=
  bytesAt_of_prefix h hn

theorem twelve_le_length_encoding (crc32 : List UInt8 → UInt32) (pkt : Pkt)
    (payload : List UInt8) : 12 ≤ (encoding crc32 pkt payload).length := by
  rw [length_encoding]
  split <;> omega

theorem bytesAt_header (h : StartsWith data (encoding crc32 pkt payload)) :
    bytesAt data 0 8 = header pkt := by
  have h12 := twelve_le_length_encoding crc32 pkt payload
  rw [h.bytesAt (by omega), List.drop_zero, encoding, List.append_assoc]
  exact List.take_left' (length_header pkt)

theorem toNat_firstByte (h : StartsWith data (encoding crc32 pkt payload)) :
    (data 0).toNat = pkt.type.toBits * 64 + pkt.tr.val * 32 + pkt.window.val := by
  have h12 := twelve_le_length_encoding crc32 pkt payload
  have hbits : pkt.type.toBits < 4 := pkt.type.toBits_lt
  have htr : pkt.tr.val < 2 := pkt.tr.isLt
  have hwin : pkt.window.val < 32 := pkt.window.isLt
  have h0 : data 0 =
      UInt8.ofNat ((pkt.type.toBits <<< 6) + (pkt.tr.val <<< 5) + pkt.window.val) := by
    rw [h 0 (by omega)]
    simp [encoding, header]
  rw [h0, UInt8.toNat_ofNat', Nat.shiftLeft_eq, Nat.shiftLeft_eq]
  omega

theorem Wire.type_of_startsWith (h : StartsWith data (encoding crc32 pkt payload)) :
    Wire.type data = pkt.type := by
  have htr : pkt.tr.val < 2 := pkt.tr.isLt
  have hwin : pkt.window.val < 32 := pkt.window.isLt
  have hdiv : (pkt.type.toBits * 64 + pkt.tr.val * 32 + pkt.window.val) / 64 =
      pkt.type.toBits := by omega
  rw [Wire.type, toNat_firstByte h, hdiv, Ptypes.ofBits_toBits]

theorem Wire.tr_of_startsWith (h : StartsWith data (encoding crc32 pkt payload)) :
    Wire.tr data = pkt.tr := by
  have htr : pkt.tr.val < 2 := pkt.tr.isLt
  have hwin : pkt.window.val < 32 := pkt.window.isLt
  apply Fin.ext
  rw [Wire.tr, toNat_firstByte h, Fin.val_ofNat]
  omega

theorem Wire.window_of_startsWith (h : StartsWith data (encoding crc32 pkt payload)) :
    Wire.window data = pkt.window := by
  have hwin : pkt.window.val < 32 := pkt.window.isLt
  apply Fin.ext
  rw [Wire.window, toNat_firstByte h, Fin.val_ofNat]
  omega

theorem Wire.length_of_startsWith (h : StartsWith data (encoding crc32 pkt payload)) :
    Wire.length data = pkt.length.toNat := by
  have h12 := twelve_le_length_encoding crc32 pkt payload
  have hbytes : bytesAt data 1 2 = beBytes 2 pkt.length.toNat := by
    rw [h.bytesAt (by omega), encoding, header, List.append_assoc, List.cons_append,
      List.drop_succ_cons, List.drop_zero, List.append_assoc]
    exact List.take_left' (length_beBytes ..)
  rw [Wire.length, hbytes, ofBeBytes_beBytes pkt.length.toNat_lt]

theorem Wire.seqnum_of_startsWith (h : StartsWith data (encoding crc32 pkt payload)) :
    Wire.seqnum data = pkt.seqnum := by
  have h12 := twelve_le_length_encoding crc32 pkt payload
  rw [Wire.seqnum, h 3 (by omega)]
  simp [encoding, header, beBytes, leBytes]

theorem Wire.timestamp_of_startsWith (h : StartsWith data (encoding crc32 pkt payload)) :
    Wire.timestamp data = pkt.timestamp := by
  have h12 := twelve_le_length_encoding crc32 pkt payload
  have hbytes : bytesAt data 4 4 = leBytes 4 pkt.timestamp.toNat := by
    have h4 : (header pkt).drop 4 = leBytes 4 pkt.timestamp.toNat := by
      simp [header, beBytes, leBytes]
    rw [h.bytesAt (by omega), encoding, List.append_assoc,
      List.drop_append_of_le_length (by rw [length_header]; omega), h4]
    exact List.take_left' (length_leBytes ..)
  have hlt : pkt.timestamp.toNat < 256 ^ 4 := pkt.timestamp.toNat_lt
  rw [Wire.timestamp, hbytes, ofLeBytes_leBytes, Nat.mod_eq_of_lt hlt, UInt32.ofNat_toNat]

theorem Wire.crc1_of_startsWith (h : StartsWith data (encoding crc32 pkt payload)) :
    Wire.crc1 data = crc32 (header pkt) := by
  have h12 := twelve_le_length_encoding crc32 pkt payload
  have hbytes : bytesAt data 8 4 = beBytes 4 (crc32 (header pkt)).toNat := by
    rw [h.bytesAt (by omega), encoding, List.append_assoc,
      List.drop_left' (length_header pkt)]
    exact List.take_left' (length_beBytes ..)
  rw [Wire.crc1, hbytes, ofBeBytes_beBytes (crc32 _).toNat_lt, UInt32.ofNat_toNat]

/-- A non-empty payload is found at byte 12, -/
theorem bytesAt_payload (h : StartsWith data (encoding crc32 pkt payload)) :
    bytesAt data 12 payload.length = payload := by
  by_cases hne : payload = []
  · rw [hne]
    rfl
  · have hlen := length_encoding crc32 pkt payload
    rw [if_neg hne] at hlen
    rw [h.bytesAt (by omega), encoding,
      List.drop_left' (by rw [List.length_append, length_header, length_beBytes]),
      payloadSection, if_neg hne]
    exact List.take_left' rfl

/-- and its CRC behind it. -/
theorem Wire.crc2_of_startsWith (h : StartsWith data (encoding crc32 pkt payload))
    (hne : payload ≠ []) : Wire.crc2 data payload.length = crc32 payload := by
  have hlen := length_encoding crc32 pkt payload
  rw [if_neg hne] at hlen
  have hbytes : bytesAt data (12 + payload.length) 4 = beBytes 4 (crc32 payload).toNat := by
    rw [h.bytesAt (by omega), ← List.drop_drop, encoding,
      List.drop_left' (by rw [List.length_append, length_header, length_beBytes]),
      payloadSection, if_neg hne, List.drop_left' rfl]
    exact List.take_of_length_le (by rw [length_beBytes])
  rw [Wire.crc2, hbytes, ofBeBytes_beBytes (crc32 _).toNat_lt, UInt32.ofNat_toNat]

end Fields

/-! ## The decoded structure -/

/-- The structure `pkt_decode` returns for a datagram of `pkt`: the seven header fields are those
of `pkt`; the payload and its CRC are set when there is a payload and are the caller's otherwise. -/
def decodedPkt (malloc : Bool) (pkt : Pkt) (payload : List UInt8) (old : Pkt) : Pkt :=
  { pkt with
    crc1 := crc32 (header pkt)
    payload :=
      if payload = [] then old.payload else if malloc then .block payload else .null
    crc2 := if payload = [] then old.crc2 else crc32 payload }

/-- **Decoding a buffer that begins with an encoded packet**, of which TR may be set if it is a data
packet.  It is accepted with the fields of the packet, whatever follows in the buffer and whatever
structure the caller passed in. -/
theorem pktDecode_of_goodType {pkt : Pkt} {payload : List UInt8}
    (hcontent : pkt.content = some payload) (htype : pkt.tr = 0 ∨ pkt.type = .data)
    (hlen : pkt.length.toNat ≤ 512) {data : Memory}
    (h : StartsWith data (encoding crc32 pkt payload)) {len : ℕ} (h8 : 8 ≤ len)
    (malloc : Bool) (old : Pkt) :
    pktDecode crc32 malloc data len old =
      (.pktOk, decodedPkt crc32 malloc pkt payload old) := by
  have hpl : payload.length = pkt.length.toNat := Payload.length_of_read hcontent
  have hstored : storedLength data old = pkt.length := by
    rw [storedLength, Wire.length_of_startsWith h, if_pos hlen, UInt16.ofNat_toNat]
  have hheader : decodedHeader data old =
      { old with
        type := pkt.type, tr := pkt.tr, window := pkt.window, length := pkt.length,
        seqnum := pkt.seqnum, timestamp := pkt.timestamp, crc1 := crc32 (header pkt) } := by
    rw [decodedHeader, hstored, Wire.type_of_startsWith h, Wire.tr_of_startsWith h,
      Wire.window_of_startsWith h, Wire.seqnum_of_startsWith h, Wire.timestamp_of_startsWith h,
      Wire.crc1_of_startsWith h]
  have hread : ReadsHeader data len old := by
    refine ⟨h8, ?_, hstored ▸ hlen⟩
    unfold Wire.BadType
    rw [Wire.tr_of_startsWith h, Wire.type_of_startsWith h]
    rintro ⟨htr, hdata⟩
    exact hdata (htype.resolve_left htr)
  have hcrc : crc32 (bytesAt data 0 8) = Wire.crc1 data := by
    rw [bytesAt_header h, Wire.crc1_of_startsWith h]
  by_cases hne : payload = []
  · have hzero : storedLength data old = 0 := by
      rw [hstored, ← UInt16.toNat_inj, ← hpl, hne]
      rfl
    rw [hread.pktDecode_empty crc32 malloc hcrc hzero, hheader, decodedPkt, if_pos hne, if_pos hne]
  · have hn : (storedLength data old).toNat = payload.length := by rw [hstored, hpl]
    have hpos : storedLength data old ≠ 0 := by
      rw [ne_eq, ← UInt16.toNat_inj, hn]
      exact mt List.length_eq_zero_iff.mp hne
    have hcrc2 : crc32 (bytesAt data 12 (storedLength data old).toNat) =
        Wire.crc2 data (storedLength data old).toNat := by
      rw [hn, bytesAt_payload h, Wire.crc2_of_startsWith h hne]
    rw [hread.pktDecode_payload crc32 malloc hcrc hpos hcrc2, hheader, hn, bytesAt_payload h,
      Wire.crc2_of_startsWith h hne, decodedPkt, if_neg hne, if_neg hne]

/-- The same for a packet with TR clear. -/
theorem pktDecode_of_startsWith {pkt : Pkt} {payload : List UInt8}
    (hcontent : pkt.content = some payload) (htr : pkt.tr = 0) (hlen : pkt.length.toNat ≤ 512)
    {data : Memory} (h : StartsWith data (encoding crc32 pkt payload)) {len : ℕ} (h8 : 8 ≤ len)
    (malloc : Bool) (old : Pkt) :
    pktDecode crc32 malloc data len old =
      (.pktOk, decodedPkt crc32 malloc pkt payload old) :=
  pktDecode_of_goodType crc32 hcontent (Or.inl htr) hlen h h8 malloc old

/-- The payload of the decoded structure, once its allocation succeeded, is the payload sent. -/
theorem content_decodedPkt {pkt : Pkt} {payload : List UInt8} (old : Pkt)
    (hcontent : pkt.content = some payload) :
    (decodedPkt crc32 true pkt payload old).content = some payload := by
  have hpl : payload.length = pkt.length.toNat := Payload.length_of_read hcontent
  by_cases hne : payload = []
  · have hz : pkt.length.toNat = 0 := by rw [← hpl, hne]; rfl
    simp [Pkt.content, decodedPkt, Payload.read, hz, hne]
  · simp [Pkt.content, decodedPkt, Payload.read, hne, ← hpl]

/-- **Decoding undoes encoding.**  A packet with TR clear, a length of at most 512 and a payload of
exactly that length is encoded with `PKT_OK` into 12 bytes, or 16 and the payload.  Any buffer that
begins with these bytes is decoded with `PKT_OK` to the same type, TR, window, length, sequence
number, timestamp and payload. -/
theorem pktDecode_pktEncode (pkt : Pkt) (payload : List UInt8) (htr : pkt.tr = 0)
    (hlen : pkt.length.toNat ≤ 512) (hcontent : pkt.content = some payload) (buf : Memory)
    (cap : ℕ) :
    ∃ e, pktEncode crc32 pkt buf cap = some e ∧ e.status = .pktOk ∧
      e.len = (if pkt.length = 0 then 12 else 16 + pkt.length.toNat) ∧
      ∀ (data : Memory) (len : ℕ) (old : Pkt) (malloc : Bool),
        (∀ i < e.len, data i = e.buf i) → e.len ≤ len →
        ∃ q, pktDecode crc32 malloc data len old = (.pktOk, q) ∧
          q.type = pkt.type ∧ q.tr = pkt.tr ∧ q.window = pkt.window ∧ q.length = pkt.length ∧
          q.seqnum = pkt.seqnum ∧ q.timestamp = pkt.timestamp ∧
          (malloc = true → q.content = some payload) := by
  have hpl : payload.length = pkt.length.toNat := Payload.length_of_read hcontent
  refine ⟨_, pktEncode_eq crc32 hcontent buf cap, rfl, ?_, ?_⟩
  · have hiff : payload = [] ↔ pkt.length = 0 := by
      rw [← List.length_eq_zero_iff, hpl, ← UInt16.toNat_inj]
      rfl
    simp only [length_encoding, hiff, hpl]
  · intro data len old malloc hdata hle
    have h12 := twelve_le_length_encoding crc32 pkt payload
    have hstart := (startsWith_memcpy buf (encoding crc32 pkt payload)).congr hdata
    have hle' : (encoding crc32 pkt payload).length ≤ len := hle
    refine ⟨_, pktDecode_of_startsWith crc32 hcontent htr hlen hstart (by omega) malloc old,
      rfl, rfl, rfl, rfl, rfl, rfl, ?_⟩
    rintro rfl
    exact content_decodedPkt crc32 old hcontent

/-- A data packet with a payload of three bytes. -/
def threeBytes : Pkt where
  type := .data
  tr := 0
  window := 4
  length := 3
  seqnum := 7
  timestamp := 1000
  crc1 := 0
  payload := .block [10, 20, 30]
  crc2 := 0

theorem content_threeBytes : threeBytes.content = some [10, 20, 30] := rfl

/-- The three bytes come back, out of a buffer with 493 others behind them. -/
theorem pktDecode_pktEncode_threeBytes :
    ∃ e q, pktEncode zlibCrc32 threeBytes (fun _ => 0) 512 = some e ∧ e.len = 19 ∧
      pktDecode zlibCrc32 true e.buf 512 threeBytes = (.pktOk, q) ∧
      q.content = some [10, 20, 30] := by
  obtain ⟨e, he, -, hlen, hdec⟩ :=
    pktDecode_pktEncode zlibCrc32 threeBytes [10, 20, 30] rfl (by decide) content_threeBytes
      (fun _ => 0) 512
  have h19 : e.len = 19 := hlen.trans (by decide)
  obtain ⟨q, hq, -, -, -, -, -, -, hcontent⟩ :=
    hdec e.buf 512 threeBytes true (fun _ _ => rfl) (by omega)
  exact ⟨e, q, he, h19, hq, hcontent rfl⟩

end TrtpNetwork
