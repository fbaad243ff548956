import TrtpNetwork.Packet.Decode

/-!
# The exits of `pkt_decode`

`pkt_decode` leaves at seven places, with more of the structure filled in at each.  There is one
lemma here for every exit: what it takes to get there, the status, and the structure the caller has
then.  Three exits lie before the end of the header, `ReadsHeader` is what it takes to get past
them, and the other four differ in the two CRCs and the length.
-/

namespace TrtpNetwork

/-- TR on a packet that is not a data packet, which is refused. -/
def Wire.BadType (data : Memory) : Prop := Wire.tr data ≠ 0 ∧ Wire.type data ≠ .data

instance (data : Memory) : Decidable (Wire.BadType data) := by
  unfold Wire.BadType
  infer_instance

/-- The header is read to its end. -/
structure ReadsHeader (data : Memory) (len : ℕ) (pkt : Pkt) : Prop where
  enough : 8 ≤ len
  type : ¬ Wire.BadType data
  length : (storedLength data pkt).toNat ≤ 512

variable (crc32 : List UInt8 → UInt32) (malloc : Bool) {data : Memory} {len : ℕ} {pkt : Pkt}

/-! ## Before the end of the header -/

theorem pktDecode_of_noheader (h8 : len < 8) :
    pktDecode crc32 malloc data len pkt = (.eNoheader, pkt) := by
  rw [pktDecode_eq, if_pos h8]

theorem pktDecode_of_badType (h8 : 8 ≤ len) (htype : Wire.BadType data) :
    pktDecode crc32 malloc data len pkt =
      (.eType, { pkt with type := Wire.type data, tr := Wire.tr data }) := by
  have hbad : Wire.tr data ≠ 0 ∧ Wire.type data ≠ .data := htype
  rw [pktDecode_eq, if_neg (by omega), if_pos hbad]

theorem pktDecode_of_overlong (h8 : 8 ≤ len) (htype : ¬ Wire.BadType data)
    (hlen : 512 < (storedLength data pkt).toNat) :
    pktDecode crc32 malloc data len pkt =
      (.eLength, { pkt with
        type := Wire.type data, tr := Wire.tr data, window := Wire.window data,
        length := storedLength data pkt }) := by
  have hgt : storedLength data pkt > 512 := by
    rw [gt_iff_lt, UInt16.lt_iff_toNat_lt]
    exact hlen
  have hgood : ¬ (Wire.tr data ≠ 0 ∧ Wire.type data ≠ .data) := htype
  rw [pktDecode_eq, if_neg (by omega), if_neg hgood, if_pos hgt]

/-! ## Behind it -/

namespace ReadsHeader

/-- A length field of at most 512 is what is stored, whatever the structure held. -/
theorem of_length (h8 : 8 ≤ len) (htype : ¬ Wire.BadType data) (hlen : Wire.length data ≤ 512)
    (pkt : Pkt) : ReadsHeader data len pkt :=
  ⟨h8, htype, by rw [toNat_storedLength hlen]; exact hlen⟩

/-- The checks on the CRCs are all that is left. -/
theorem pktDecode_eq (h : ReadsHeader data len pkt) :
    pktDecode crc32 malloc data len pkt =
      if crc32 (bytesAt data 0 8) ≠ Wire.crc1 data then (.eCrc, decodedHeader data pkt)
      else if storedLength data pkt > 0 then
        let n := (storedLength data pkt).toNat
        let pkt := { decodedHeader data pkt with crc2 := Wire.crc2 data n }
        if Wire.crc2 data n ≠ crc32 (bytesAt data 12 n) then (.eCrc, pkt)
        else (.pktOk, (pktSetPayload malloc pkt (fun i => data (12 + i)) pkt.length).2)
      else (.pktOk, decodedHeader data pkt) := by
  have hgt : ¬ storedLength data pkt > 512 := by
    rw [gt_iff_lt, UInt16.lt_iff_toNat_lt]
    exact Nat.not_lt.mpr h.length
  have h8 : ¬ len < 8 := Nat.not_lt.mpr h.enough
  have hgood : ¬ (Wire.tr data ≠ 0 ∧ Wire.type data ≠ .data) := h.type
  rw [TrtpNetwork.pktDecode_eq, if_neg h8, if_neg hgood, if_neg hgt]

theorem pktDecode_badCrc1 (h : ReadsHeader data len pkt)
    (hcrc : crc32 (bytesAt data 0 8) ≠ Wire.crc1 data) :
    pktDecode crc32 malloc data len pkt = (.eCrc, decodedHeader data pkt) := by
  rw [h.pktDecode_eq, if_pos hcrc]

theorem pktDecode_empty (h : ReadsHeader data len pkt)
    (hcrc : crc32 (bytesAt data 0 8) = Wire.crc1 data) (hzero : storedLength data pkt = 0) :
    pktDecode crc32 malloc data len pkt = (.pktOk, decodedHeader data pkt) := by
  have hpos : ¬ storedLength data pkt > 0 := by
    rw [hzero]
    decide
  rw [h.pktDecode_eq, if_neg (not_not.mpr hcrc), if_neg hpos]

theorem pktDecode_badCrc2 (h : ReadsHeader data len pkt)
    (hcrc : crc32 (bytesAt data 0 8) = Wire.crc1 data) (hne : storedLength data pkt ≠ 0)
    (hcrc2 : crc32 (bytesAt data 12 (storedLength data pkt).toNat) ≠
      Wire.crc2 data (storedLength data pkt).toNat) :
    pktDecode crc32 malloc data len pkt =
      (.eCrc, { decodedHeader data pkt with
        crc2 := Wire.crc2 data (storedLength data pkt).toNat }) := by
  have hpos : storedLength data pkt > 0 := UInt16.pos_iff_ne_zero.mpr hne
  rw [h.pktDecode_eq, if_neg (not_not.mpr hcrc), if_pos hpos]
  simp only [if_pos hcrc2.symm]

/-- The one exit with a payload: the block just allocated, or `NULL` if there was no memory. -/
theorem pktDecode_payload (h : ReadsHeader data len pkt)
    (hcrc : crc32 (bytesAt data 0 8) = Wire.crc1 data) (hne : storedLength data pkt ≠ 0)
    (hcrc2 : crc32 (bytesAt data 12 (storedLength data pkt).toNat) =
      Wire.crc2 data (storedLength data pkt).toNat) :
    pktDecode crc32 malloc data len pkt =
      (.pktOk, { decodedHeader data pkt with
        crc2 := Wire.crc2 data (storedLength data pkt).toNat
        payload := if malloc then .block (bytesAt data 12 (storedLength data pkt).toNat)
          else .null }) := by
  have hpos : storedLength data pkt > 0 := UInt16.pos_iff_ne_zero.mpr hne
  have hlen : ¬ (512 : UInt16) < storedLength data pkt := by
    rw [UInt16.lt_iff_toNat_lt]
    exact Nat.not_lt.mpr h.length
  rw [h.pktDecode_eq, if_neg (not_not.mpr hcrc), if_pos hpos]
  simp only [if_neg (not_not.mpr hcrc2.symm)]
  cases malloc <;> simp [pktSetPayload, decodedHeader, hlen, bytesAt_shift]

end ReadsHeader

/-- **A packet that is rejected has the payload pointer it came with.** -/
theorem payload_of_rejected (hbad : (pktDecode crc32 malloc data len pkt).1 ≠ .pktOk) :
    (pktDecode crc32 malloc data len pkt).2.payload = pkt.payload := by
  by_cases h8 : len < 8
  · rw [pktDecode_of_noheader crc32 malloc h8]
  by_cases htype : Wire.BadType data
  · rw [pktDecode_of_badType crc32 malloc (Nat.not_lt.mp h8) htype]
  by_cases hlen : (storedLength data pkt).toNat ≤ 512
  · have h : ReadsHeader data len pkt := ⟨Nat.not_lt.mp h8, htype, hlen⟩
    by_cases hcrc : crc32 (bytesAt data 0 8) = Wire.crc1 data
    · by_cases hzero : storedLength data pkt = 0
      · exact absurd (by rw [h.pktDecode_empty crc32 malloc hcrc hzero]) hbad
      by_cases hcrc2 : crc32 (bytesAt data 12 (storedLength data pkt).toNat) =
          Wire.crc2 data (storedLength data pkt).toNat
      · exact absurd (by rw [h.pktDecode_payload crc32 malloc hcrc hzero hcrc2]) hbad
      · rw [h.pktDecode_badCrc2 crc32 malloc hcrc hzero hcrc2]
        rfl
    · rw [h.pktDecode_badCrc1 crc32 malloc hcrc]
      rfl
  · rw [pktDecode_of_overlong crc32 malloc (Nat.not_lt.mp h8) htype (Nat.not_le.mp hlen)]

/-- **The payload of an accepted packet can be read** when its allocation succeeded. -/
theorem content_ne_none_of_pktOk (hok : (pktDecode crc32 true data len pkt).1 = .pktOk) :
    (pktDecode crc32 true data len pkt).2.content ≠ none := by
  obtain ⟨h8, htype, hlen, hcrc, hcrc2⟩ := (pktDecode_status_eq_pktOk_iff ..).mp hok
  have hread : ReadsHeader data len pkt := by
    refine ⟨h8, ?_, hlen⟩
    rintro ⟨htr, hdata⟩
    exact hdata (htype.resolve_left htr)
  by_cases hzero : storedLength data pkt = 0
  · rw [hread.pktDecode_empty crc32 true hcrc hzero]
    simp [Pkt.content, decodedHeader, hzero, Payload.read]
  · have hne : (storedLength data pkt).toNat ≠ 0 := fun h => hzero (UInt16.toNat_inj.mp h)
    rw [hread.pktDecode_payload crc32 true hcrc hzero (hcrc2 (Nat.pos_of_ne_zero hne))]
    simp [Pkt.content, decodedHeader, Payload.read, hne]

end TrtpNetwork
