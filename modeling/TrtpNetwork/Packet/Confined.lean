import TrtpNetwork.Packet.Extent

/-!
# Reads that stay in the buffer

The array that is handed to `pkt_decode` has 512 bytes, and a length field may announce a payload
that ends behind it.  `pktDecodeIn` is `pkt_decode` with each of its reads confined to the first
`size` bytes: a read outside has no outcome.  `pktDecodeIn_eq` is when it has one, and that it is
the same then: the bytes `pkt_decode` looks at are those of `LooksWithin`, no more and no fewer.

For the buffer of the two programs this is a matter of the header alone (`decodeReadIn_eq`): a
length field of 497 to 512, or one that is refused while the structure held such a length before, in
a header with the right CRC.
-/

namespace TrtpNetwork

variable (crc32 : List UInt8 → UInt32)

/-- `pkt_decode` on an array of `size` bytes. -/
def pktDecodeIn (size : ℕ) (malloc : Bool) (data : Memory) (len : ℕ) (pkt : Pkt) :
    Option (PktStatusCode × Pkt) :=
  if len < 8 then some (.eNoheader, pkt) else do
  access size 0 1
  let pkt := (pktSetType pkt ((data 0 &&& 0xC0) >>> 6).toNat).2
  let pkt := (pktSetTr pkt ((data 0 &&& 0x20) >>> 5)).2
  if pkt.tr ≠ 0 ∧ pkt.type ≠ .data then some (.eType, pkt) else do
  let pkt := (pktSetWindow pkt (data 0 &&& 0x1F)).2
  access size 1 2
  let pkt := (pktSetLength pkt (UInt16.ofNat (ofBeBytes (bytesAt data 1 2)))).2
  if pkt.length > 512 then some (.eLength, pkt) else do
  access size 3 1
  let pkt := (pktSetSeqnum pkt (data 3)).2
  access size 4 4
  let pkt := (pktSetTimestamp pkt (UInt32.ofNat (ofLeBytes (bytesAt data 4 4)))).2
  access size 0 8
  let myCrc1 := crc32 (bytesAt data 0 8)
  access size 8 4
  let pkt := (pktSetCrc1 pkt (UInt32.ofNat (ofBeBytes (bytesAt data 8 4)))).2
  if myCrc1 ≠ pkt.crc1 then some (.eCrc, pkt) else
  if pkt.length > 0 then do
    access size 12 pkt.length.toNat
    let myCrc2 := crc32 (bytesAt data 12 pkt.length.toNat)
    access size (12 + pkt.length.toNat) 4
    let nCrc2 := ofBeBytes (bytesAt data (12 + pkt.length.toNat) 4)
    let pkt := (pktSetCrc2 pkt (UInt32.ofNat nCrc2)).2
    if pkt.crc2 ≠ myCrc2 then some (.eCrc, pkt)
    else some (.pktOk, (pktSetPayload malloc pkt (fun i => data (12 + i)) pkt.length).2)
  else some (.pktOk, pkt)

/-- Check by check, with the reads before each. -/
theorem pktDecodeIn_eq_bind (size : ℕ) (malloc : Bool) (data : Memory) (len : ℕ) (pkt : Pkt) :
    pktDecodeIn crc32 size malloc data len pkt =
      if len < 8 then some (.eNoheader, pkt)
      else (access size 0 1).bind fun _ =>
      if Wire.tr data ≠ 0 ∧ Wire.type data ≠ .data then
        some (.eType, { pkt with type := Wire.type data, tr := Wire.tr data })
      else (access size 1 2).bind fun _ =>
      if storedLength data pkt > 512 then
        some (.eLength, { pkt with
          type := Wire.type data, tr := Wire.tr data, window := Wire.window data,
          length := storedLength data pkt })
      else (access size 3 1).bind fun _ => (access size 4 4).bind fun _ =>
        (access size 0 8).bind fun _ => (access size 8 4).bind fun _ =>
      if crc32 (bytesAt data 0 8) ≠ Wire.crc1 data then some (.eCrc, decodedHeader data pkt)
      else if storedLength data pkt > 0 then
        (access size 12 (storedLength data pkt).toNat).bind fun _ =>
        (access size (12 + (storedLength data pkt).toNat) 4).bind fun _ =>
        let n := (storedLength data pkt).toNat
        let pkt := { decodedHeader data pkt with crc2 := Wire.crc2 data n }
        if Wire.crc2 data n ≠ crc32 (bytesAt data 12 n) then some (.eCrc, pkt)
        else some (.pktOk, (pktSetPayload malloc pkt (fun i => data (12 + i)) pkt.length).2)
      else some (.pktOk, decodedHeader data pkt) := by
  rw [pktDecodeIn]
  simp only [pktSetType_wire, pktSetTr_wire, pktSetWindow_wire, pktSetLength_wire, pktSetSeqnum,
    pktSetTimestamp, pktSetCrc1, pktSetCrc2]
  rfl

variable {crc32}

/-- The part behind the length field. -/
theorem looksWithin_iff_of_length {data : Memory} {n : ℕ} {pkt : Pkt}
    (htype : ¬ (Wire.tr data ≠ 0 ∧ Wire.type data ≠ .data)) (hlen : ¬ storedLength data pkt > 512) :
    LooksWithin crc32 data n pkt ↔ 12 ≤ n ∧ (crc32 (bytesAt data 0 8) ≠ Wire.crc1 data ∨
      storedLength data pkt = 0 ∨ 16 + (storedLength data pkt).toNat ≤ n) := by
  unfold LooksWithin
  tauto

/-- **The bytes `pkt_decode` looks at**, exactly. -/
theorem pktDecodeIn_eq (size : ℕ) (malloc : Bool) (data : Memory) (len : ℕ) (pkt : Pkt) :
    pktDecodeIn crc32 size malloc data len pkt =
      if len < 8 ∨ LooksWithin crc32 data size pkt then some (pktDecode crc32 malloc data len pkt)
      else none := by
  rw [pktDecode_eq, pktDecodeIn_eq_bind]
  by_cases h8 : len < 8
  · rw [if_pos h8, if_pos (Or.inl h8), if_pos h8]
  simp only [if_neg h8, or_iff_right h8]
  -- the type, which is in the first byte
  rcases Nat.lt_or_ge size 1 with h1 | h1
  · have hlook : ¬ LooksWithin crc32 data size pkt := by
      rintro (⟨h, -⟩ | ⟨h, -⟩ | ⟨h, -⟩) <;> omega
    rw [access_of_lt (by omega), if_neg hlook, Option.bind_none]
  rw [access_of_le (by omega), Option.bind_some]
  by_cases htype : Wire.tr data ≠ 0 ∧ Wire.type data ≠ .data
  · have hlook : LooksWithin crc32 data size pkt := Or.inl ⟨h1, htype⟩
    rw [if_pos htype, if_pos htype, if_pos hlook]
  rw [if_neg htype, if_neg htype]
  -- the length
  rcases Nat.lt_or_ge size 3 with h3 | h3
  · have hlook : ¬ LooksWithin crc32 data size pkt := by
      rintro (⟨-, h⟩ | ⟨h, -⟩ | ⟨h, -⟩)
      · exact htype h
      · omega
      · omega
    rw [access_of_lt (by omega), if_neg hlook, Option.bind_none]
  rw [access_of_le (by omega), Option.bind_some]
  by_cases hlen : storedLength data pkt > 512
  · have hlook : LooksWithin crc32 data size pkt := Or.inr (Or.inl ⟨h3, hlen⟩)
    rw [if_pos hlen, if_pos hlen, if_pos hlook]
  rw [if_neg hlen, if_neg hlen]
  have hiff : LooksWithin crc32 data size pkt ↔ _ :=
    looksWithin_iff_of_length htype hlen
  -- the rest of the header
  rcases Nat.lt_or_ge size 12 with h12 | h12
  · have hlook : ¬ LooksWithin crc32 data size pkt := fun h => absurd (hiff.mp h).1 (by omega)
    rw [access_of_lt (show size < 8 + 4 by omega), if_neg hlook]
    simp only [Option.bind_none, Option.bind_fun_none]
  rw [access_of_le (show 3 + 1 ≤ size by omega), access_of_le (show 4 + 4 ≤ size by omega),
    access_of_le (show 0 + 8 ≤ size by omega), access_of_le (show 8 + 4 ≤ size by omega)]
  simp only [Option.bind_some]
  by_cases hcrc : crc32 (bytesAt data 0 8) ≠ Wire.crc1 data
  · rw [if_pos hcrc, if_pos hcrc, if_pos (hiff.mpr ⟨h12, Or.inl hcrc⟩)]
  rw [if_neg hcrc, if_neg hcrc]
  by_cases hpos : storedLength data pkt > 0
  swap
  · have hzero : storedLength data pkt = 0 := by
      rw [gt_iff_lt, UInt16.lt_iff_toNat_lt] at hpos
      exact UInt16.toNat_inj.mp (Nat.eq_zero_of_not_pos hpos)
    rw [if_neg hpos, if_neg hpos, if_pos (hiff.mpr ⟨h12, Or.inr (Or.inl hzero)⟩)]
  rw [if_pos hpos, if_pos hpos]
  -- the payload and its CRC
  rcases Nat.lt_or_ge size (16 + (storedLength data pkt).toNat) with h16 | h16
  · have hlook : ¬ LooksWithin crc32 data size pkt := by
      intro h
      rcases (hiff.mp h).2 with h | h | h
      · exact hcrc h
      · rw [h] at hpos
        exact absurd hpos (by decide)
      · omega
    rw [access_of_lt (show size < 12 + (storedLength data pkt).toNat + 4 by omega), if_neg hlook]
    simp only [Option.bind_none, Option.bind_fun_none]
  rw [access_of_le (by omega), access_of_le (by omega),
    if_pos (hiff.mpr ⟨h12, Or.inr (Or.inr h16)⟩)]
  simp only [Option.bind_some]
  by_cases hcrc2 : Wire.crc2 data (storedLength data pkt).toNat ≠
      crc32 (bytesAt data 12 (storedLength data pkt).toNat)
  · rw [if_pos hcrc2, if_pos hcrc2]
  · rw [if_neg hcrc2, if_neg hcrc2]

/-! ## The buffer of the two programs -/

variable (crc32) in
/-- `pkt_decode` on the buffer after a `read`, confined to its 512 bytes. -/
def decodeReadIn (buffer : Memory) (result : ReadResult) (beyond : Memory) (fresh : Pkt) :
    Option (PktStatusCode × Pkt) :=
  pktDecodeIn crc32 maxBufferSize true (bufferView (readInto buffer result) beyond) maxBufferSize
    fresh

variable (crc32) in
/-- The header in the buffer is accepted, and the payload it announces ends behind the buffer. -/
def RunsOut (buffer : Memory) (fresh : Pkt) : Prop :=
  (Wire.tr buffer = 0 ∨ Wire.type buffer = .data) ∧
    crc32 (bytesAt buffer 0 8) = Wire.crc1 buffer ∧
    496 < (storedLength buffer fresh).toNat ∧ (storedLength buffer fresh).toNat ≤ 512

instance (buffer : Memory) (fresh : Pkt) : Decidable (RunsOut crc32 buffer fresh) := by
  unfold RunsOut
  infer_instance

/-- It is a matter of the header. -/
theorem RunsOut.congr {data data' : Memory} (h : ∀ i < 12, data i = data' i) (fresh : Pkt) :
    RunsOut crc32 data fresh ↔ RunsOut crc32 data' fresh := by
  obtain ⟨htype, htr, -⟩ := firstByte_agree h (by decide)
  have hheader : bytesAt data 0 8 = bytesAt data' 0 8 := bytesAt_agree h (by decide)
  unfold RunsOut
  rw [htype, htr, hheader, crc1_agree h (by decide), storedLength_agree h (by decide)]

/-- **When `pkt_decode` looks behind the buffer.** -/
theorem looksWithin_bufferView_iff (buffer beyond : Memory) (fresh : Pkt) :
    LooksWithin crc32 (bufferView buffer beyond) maxBufferSize fresh ↔
      ¬ RunsOut crc32 buffer fresh := by
  have hagree : ∀ i < 12, bufferView buffer beyond i = buffer i :=
    fun i hi => if_pos (Nat.lt_trans hi (by decide))
  rw [← RunsOut.congr hagree fresh]
  generalize bufferView buffer beyond = buffer
  unfold LooksWithin RunsOut
  rw [gt_iff_lt, UInt16.lt_iff_toNat_lt, ← UInt16.toNat_inj]
  have h512 : (512 : UInt16).toNat = 512 := rfl
  have h0 : (0 : UInt16).toNat = 0 := rfl
  unfold maxBufferSize
  rw [h512, h0]
  constructor
  · rintro (⟨-, htr', htype'⟩ | ⟨-, hlong⟩ | ⟨-, hcrc' | hzero | hfits⟩) ⟨hkind, hgood, hlo, hhi⟩
    · rcases hkind with h | h
      · exact htr' h
      · exact htype' h
    · omega
    · exact hcrc' hgood
    · omega
    · omega
  · intro hout
    by_cases hkind : Wire.tr buffer = 0 ∨ Wire.type buffer = .data
    swap
    · exact Or.inl ⟨by decide, not_or.mp hkind⟩
    by_cases hgood : crc32 (bytesAt buffer 0 8) = Wire.crc1 buffer
    swap
    · exact Or.inr (Or.inr ⟨by decide, Or.inl hgood⟩)
    have hlength : ¬ (496 < (storedLength buffer fresh).toNat ∧
        (storedLength buffer fresh).toNat ≤ 512) := fun h => hout ⟨hkind, hgood, h⟩
    omega

/-- **Decoding what was read**, in the buffer. -/
theorem decodeReadIn_eq (buffer : Memory) (result : ReadResult) (beyond : Memory) (fresh : Pkt) :
    decodeReadIn crc32 buffer result beyond fresh =
      if RunsOut crc32 (readInto buffer result) fresh then none
      else some (decodeRead crc32 buffer result beyond fresh) := by
  have hlook : LooksWithin crc32 (bufferView (readInto buffer result) beyond) maxBufferSize fresh ↔
      ¬ RunsOut crc32 (readInto buffer result) fresh := looksWithin_bufferView_iff ..
  rw [decodeReadIn, pktDecodeIn_eq]
  by_cases hout : RunsOut crc32 (readInto buffer result) fresh
  · rw [if_pos hout, if_neg]
    rintro (h8 | hin)
    · exact absurd h8 (by decide)
    · exact hlook.mp hin hout
  · rw [if_neg hout, if_pos (Or.inr (hlook.mpr hout))]
    rfl

/-- Of what `pkt_encode` writes, these are the packets with a payload of more than 496 bytes. -/
theorem runsOut_encoding_iff {pkt : Pkt} {payload : List UInt8}
    (hcontent : pkt.content = some payload) (htr : pkt.tr = 0) (hlen : payload.length ≤ 512)
    (buffer : Memory) (fresh : Pkt) :
    RunsOut crc32 (readInto buffer (.bytes (encoding crc32 pkt payload))) fresh ↔
      496 < payload.length := by
  have hpl : payload.length = pkt.length.toNat := Payload.length_of_read hcontent
  have hagree : ∀ i < 12, readInto buffer (.bytes (encoding crc32 pkt payload)) i =
      memcpy buffer 0 (encoding crc32 pkt payload) i := by
    intro i hi
    have h12 := twelve_le_length_encoding crc32 pkt payload
    have htake : i < ((encoding crc32 pkt payload).take maxBufferSize).length := by
      rw [List.length_take]
      exact Nat.lt_min.mpr ⟨Nat.lt_trans hi (by decide), by omega⟩
    rw [readInto, memcpy_of_mem (Nat.zero_le i) htake, memcpy_of_mem (Nat.zero_le i) (by omega),
      List.getElem_take]
  have hstart := startsWith_memcpy buffer (encoding crc32 pkt payload)
  rw [RunsOut.congr hagree]
  have hstored : storedLength (memcpy buffer 0 (encoding crc32 pkt payload)) fresh =
      pkt.length := by
    rw [storedLength, Wire.length_of_startsWith hstart, if_pos (by omega), UInt16.ofNat_toNat]
  unfold RunsOut
  rw [Wire.tr_of_startsWith hstart, bytesAt_header hstart, Wire.crc1_of_startsWith hstart, hstored]
  constructor
  · rintro ⟨-, -, hlo, -⟩
    omega
  · exact fun hlo => ⟨Or.inl htr, rfl, by omega, by omega⟩

end TrtpNetwork
