import TrtpNetwork.Packet.Canonical
import TrtpNetwork.Packet.Corruption
import TrtpNetwork.Packet.Exits
import TrtpNetwork.Packet.Extent

/-!
# Bytes that were not received

`pkt_decode` is told how many bytes there are, compares that number with 8, and reads on from there:
the header CRC in bytes 8 to 11, the payload for as long as the length field says, and its CRC.
Whether bytes that were never received take part in the result is a matter of the datagram
(`readsGivenOnly_iff`).  They do not if `pkt_decode` stops looking in time, or if a CRC byte that
was received is wrong already.  They do in all other cases: there is a continuation with which the
datagram is accepted, and one with which it is not.
-/

namespace TrtpNetwork

variable (crc32 : List UInt8 → UInt32)

/-- Two memories that agree on the first `len` bytes are decoded with the same status and, if that
is `PKT_OK`, to the same packet. -/
def ReadsGivenOnly (malloc : Bool) (data : Memory) (len : ℕ) (pkt : Pkt) : Prop :=
  ∀ data' : Memory, (∀ i < len, data i = data' i) →
    (pktDecode crc32 malloc data len pkt).1 = (pktDecode crc32 malloc data' len pkt).1 ∧
    ((pktDecode crc32 malloc data len pkt).1 = .pktOk →
      (pktDecode crc32 malloc data len pkt).2 = (pktDecode crc32 malloc data' len pkt).2)

/-- What is given of the CRC field at `off` agrees with the CRC of `bytes`. -/
def CrcFits (data : Memory) (len off : ℕ) (bytes : List UInt8) : Prop :=
  ∀ i < len, memcpy data off (beBytes 4 (crc32 bytes).toNat) i = data i

/-- The first `len` bytes settle the result. -/
def SettledByGiven (data : Memory) (len : ℕ) (pkt : Pkt) : Prop :=
  let n := (storedLength data pkt).toNat
  len < 8 ∨ Wire.BadType data ∨ 512 < n ∨ ¬ CrcFits crc32 data len 8 (bytesAt data 0 8) ∨
    (12 ≤ len ∧ (n = 0 ∨ 16 + n ≤ len ∨
      ¬ CrcFits crc32 data len (12 + n) (bytesAt data 12 n)))

variable {crc32} {malloc : Bool} {data data' : Memory} {len : ℕ} {pkt : Pkt}

/-! ## Received bytes that decide -/

/-- A received byte of a CRC field that is wrong stays wrong, whatever the rest of the field is. -/
theorem crc_ne_of_not_fits {off : ℕ} {bytes : List UInt8} (hagree : ∀ i < len, data i = data' i)
    (h : ¬ CrcFits crc32 data len off bytes) :
    crc32 bytes ≠ UInt32.ofNat (ofBeBytes (bytesAt data' off 4)) := by
  intro heq
  refine h fun i hi => ?_
  rw [heq, beBytes_crcField]
  by_cases hlo : i < off
  · exact memcpy_of_lt hlo
  by_cases hhi : off + 4 ≤ i
  · exact memcpy_of_ge (by rwa [length_bytesAt])
  · rw [memcpy_of_mem (Nat.not_lt.mp hlo) (by rw [length_bytesAt]; omega), getElem_bytesAt,
      Nat.add_sub_cancel' (Nat.not_lt.mp hlo), hagree i hi]

theorem badType_agree (hagree : ∀ i < len, data i = data' i) (h8 : 8 ≤ len) :
    Wire.BadType data ↔ Wire.BadType data' := by
  obtain ⟨htype, htr, -⟩ := firstByte_agree hagree (by omega)
  unfold Wire.BadType
  rw [htype, htr]

theorem ReadsHeader.agree (hagree : ∀ i < len, data i = data' i)
    (h : ReadsHeader data len pkt) : ReadsHeader data' len pkt where
  enough := h.enough
  type := fun hbad => h.type ((badType_agree hagree h.enough).mpr hbad)
  length := by
    have h8 := h.enough
    rw [← storedLength_agree hagree (by omega) pkt]
    exact h.length

/-- The header CRC is wrong whatever follows. -/
theorem status_of_not_fits (hagree : ∀ i < len, data i = data' i) (h : ReadsHeader data len pkt)
    (hbad : ¬ CrcFits crc32 data len 8 (bytesAt data 0 8)) :
    (pktDecode crc32 malloc data' len pkt).1 = .eCrc := by
  have h8 := h.enough
  have hbytes : bytesAt data' 0 8 = bytesAt data 0 8 :=
    (bytesAt_agree hagree (by omega)).symm
  rw [(h.agree hagree).pktDecode_badCrc1 crc32 malloc]
  rw [hbytes]
  exact crc_ne_of_not_fits hagree hbad

/-- A CRC field that lies behind the received bytes fits. -/
theorem lt_of_not_fits {off : ℕ} {bytes : List UInt8} (h : ¬ CrcFits crc32 data len off bytes) :
    off < len := by
  by_contra hle
  exact h fun i hi => memcpy_of_lt (by omega)

/-- The CRC of the payload is wrong whatever follows. -/
theorem status_of_payload_not_fits (hagree : ∀ i < len, data i = data' i)
    (h : ReadsHeader data len pkt) (hcrc : crc32 (bytesAt data 0 8) = Wire.crc1 data)
    (hne : storedLength data pkt ≠ 0)
    (hbad : ¬ CrcFits crc32 data len (12 + (storedLength data pkt).toNat)
      (bytesAt data 12 (storedLength data pkt).toNat)) :
    (pktDecode crc32 malloc data' len pkt).1 = .eCrc := by
  have hlt := lt_of_not_fits hbad
  have hstored := storedLength_agree hagree (by omega) pkt
  have hheader := bytesAt_agree hagree (show 0 + 8 ≤ len by omega)
  have hpayload := bytesAt_agree hagree (show 12 + (storedLength data pkt).toNat ≤ len by omega)
  have hcrc' : crc32 (bytesAt data' 0 8) = Wire.crc1 data' := by
    rw [← hheader, ← crc1_agree hagree (by omega)]
    exact hcrc
  rw [(h.agree hagree).pktDecode_badCrc2 crc32 malloc hcrc' (hstored ▸ hne)]
  rw [← hstored, ← hpayload]
  exact crc_ne_of_not_fits hagree hbad

/-- **The first `len` bytes settle the result** in each of these cases. -/
theorem readsGivenOnly_of_settled (h : SettledByGiven crc32 data len pkt) :
    ReadsGivenOnly crc32 malloc data len pkt := by
  intro data' hagree
  by_cases h8 : len < 8
  · rw [pktDecode_of_noheader crc32 malloc h8, pktDecode_of_noheader crc32 malloc h8]
    exact ⟨rfl, fun _ => rfl⟩
  by_cases hlook : LooksWithin crc32 data len pkt
  · rw [pktDecode_congr crc32 hagree hlook malloc len]
    exact ⟨rfl, fun _ => rfl⟩
  -- the header is read, and one of the CRCs does not fit
  have htype : ¬ Wire.BadType data := fun hbad => hlook (Or.inl ⟨by omega, hbad⟩)
  have hlen : (storedLength data pkt).toNat ≤ 512 := by
    by_contra hgt
    refine hlook (Or.inr (Or.inl ⟨by omega, ?_⟩))
    rw [gt_iff_lt, UInt16.lt_iff_toNat_lt]
    exact Nat.not_le.mp hgt
  have hread : ReadsHeader data len pkt := ⟨Nat.not_lt.mp h8, htype, hlen⟩
  have hecrc : ∀ data', (∀ i < len, data i = data' i) →
      (pktDecode crc32 malloc data' len pkt).1 = .eCrc := by
    intro data' hagree
    rcases h with h | h | h | hbad | ⟨h12, hrest⟩
    · exact absurd h h8
    · exact absurd h htype
    · exact absurd h (Nat.not_lt.mpr hlen)
    · exact status_of_not_fits hagree hread hbad
    · by_cases hcrc : crc32 (bytesAt data 0 8) = Wire.crc1 data
      · have hne : storedLength data pkt ≠ 0 := fun hzero =>
          hlook (Or.inr (Or.inr ⟨h12, Or.inr (Or.inl hzero)⟩))
        refine status_of_payload_not_fits hagree hread hcrc hne ?_
        refine (hrest.resolve_left fun hzero => hne ?_).resolve_left fun hsize =>
          hlook (Or.inr (Or.inr ⟨h12, Or.inr (Or.inr hsize)⟩))
        exact UInt16.toNat_inj.mp hzero
      · exact absurd (Or.inr (Or.inr ⟨h12, Or.inl hcrc⟩)) hlook
  rw [hecrc data fun _ _ => rfl, hecrc data' hagree]
  exact ⟨rfl, fun hok => by cases hok⟩

/-! ## Continuations -/

/-- The memory with both CRCs as they should be, for a payload of `n` bytes. -/
def completed (crc32 : List UInt8 → UInt32) (data : Memory) (n : ℕ) : Memory :=
  memcpy (memcpy data 8 (beBytes 4 (crc32 (bytesAt data 0 8)).toNat)) (12 + n)
    (beBytes 4 (crc32 (bytesAt data 12 n)).toNat)

/-- It continues the received bytes if these fit. -/
theorem completed_agree {n : ℕ} (h1 : CrcFits crc32 data len 8 (bytesAt data 0 8))
    (h2 : CrcFits crc32 data len (12 + n) (bytesAt data 12 n)) {i : ℕ} (hi : i < len) :
    data i = completed crc32 data n i := by
  rw [completed, memcpy_apply_congr (h1 i hi)]
  exact (h2 i hi).symm

/-- **The completed datagram is accepted.** -/
theorem pktDecode_completed (h : ReadsHeader data len pkt) :
    (pktDecode crc32 malloc (completed crc32 data (storedLength data pkt).toNat) len pkt).1 =
      .pktOk := by
  have hfield : ∀ c : UInt32, UInt32.ofNat (ofBeBytes (beBytes 4 c.toNat)) = c := by
    intro c
    rw [ofBeBytes_beBytes c.toNat_lt, UInt32.ofNat_toNat]
  generalize hn : (storedLength data pkt).toNat = n
  have hagree : ∀ i < 8, data i = completed crc32 data n i := by
    intro i hi
    rw [completed, memcpy_of_lt (by omega), memcpy_of_lt hi]
  have hstored := storedLength_agree hagree (by omega) pkt
  obtain ⟨htype, htr, -⟩ := firstByte_agree hagree (by omega)
  have hheader := bytesAt_agree hagree (show 0 + 8 ≤ 8 by omega)
  have hcrc1 : Wire.crc1 (completed crc32 data n) = crc32 (bytesAt data 0 8) := by
    have hbytes : bytesAt (completed crc32 data n) 8 4 =
        beBytes 4 (crc32 (bytesAt data 0 8)).toNat := by
      rw [completed, bytesAt_memcpy_of_le (by omega)]
      have hback := bytesAt_memcpy data 8 (beBytes 4 (crc32 (bytesAt data 0 8)).toNat)
      rwa [length_beBytes] at hback
    rw [Wire.crc1, hbytes, hfield]
  have hpayload : bytesAt (completed crc32 data n) 12 n = bytesAt data 12 n := by
    rw [completed, bytesAt_memcpy_of_le (by omega),
      bytesAt_memcpy_of_ge (by rw [length_beBytes])]
  have hcrc2 : Wire.crc2 (completed crc32 data n) n = crc32 (bytesAt data 12 n) := by
    have hbytes : bytesAt (completed crc32 data n) (12 + n) 4 =
        beBytes 4 (crc32 (bytesAt data 12 n)).toNat := by
      have hback := bytesAt_memcpy
        (memcpy data 8 (beBytes 4 (crc32 (bytesAt data 0 8)).toNat)) (12 + n)
        (beBytes 4 (crc32 (bytesAt data 12 n)).toNat)
      rwa [length_beBytes] at hback
    rw [Wire.crc2, hbytes, hfield]
  have hgood : Wire.tr data = 0 ∨ Wire.type data = .data := by
    by_contra hcon
    exact h.type (not_or.mp hcon)
  rw [pktDecode_status_eq_pktOk_iff, ← hstored, hn, ← htype, ← htr, ← hheader, hcrc1, hpayload,
    hcrc2]
  exact ⟨h.enough, hgood, hn ▸ h.length, rfl, fun _ => rfl⟩

/-- The memory with one byte replaced by the next value. -/
def flipByte (m : Memory) (i : ℕ) : Memory := Function.update m i (m i + 1)

theorem flipByte_of_ne {m : Memory} {i j : ℕ} (h : j ≠ i) : flipByte m i j = m j :=
  Function.update_of_ne h ..

theorem flipByte_self_ne (m : Memory) (i : ℕ) : m i ≠ flipByte m i i := by
  rw [flipByte, Function.update_self]
  intro h
  have hnat := congrArg UInt8.toNat h
  rw [UInt8.toNat_add, UInt8.toNat_one] at hnat
  have hlt := (m i).toNat_lt
  omega

/-- **An accepted datagram with another last byte** is not accepted: the last byte is one of the
header CRC, or of the CRC of the payload. -/
theorem pktDecode_lastByteChanged (hok : (pktDecode crc32 malloc data len pkt).1 = .pktOk) {i : ℕ}
    (hi : i = 11 ∨ 0 < (storedLength data pkt).toNat ∧ i = 15 + (storedLength data pkt).toNat)
    (hne : data i ≠ data' i) (hsame : ∀ j < i, data j = data' j) :
    (pktDecode crc32 malloc data' len pkt).1 ≠ .pktOk := by
  intro hok'
  obtain ⟨-, -, -, hcrc, hcrc2⟩ := (pktDecode_status_eq_pktOk_iff ..).mp hok
  obtain ⟨-, -, -, hcrc', hcrc2'⟩ := (pktDecode_status_eq_pktOk_iff ..).mp hok'
  rcases hi with rfl | ⟨hpos, rfl⟩
  · rw [← bytesAt_agree hsame (by omega), hcrc] at hcrc'
    exact crcField_ne (show 8 ≤ 11 by omega) (by omega) hne hcrc'
  · rw [← storedLength_agree hsame (by omega) pkt] at hcrc2'
    have hpayload := hcrc2' hpos
    rw [← bytesAt_agree hsame (by omega), hcrc2 hpos] at hpayload
    exact crcField_ne (by omega) (by omega) hne hpayload

/-- **Which datagrams are decoded from what was received.**  Exactly those of which the first `len`
bytes settle the result: fewer than 8, a header that is refused for its type or its length, a
received CRC byte that is wrong, or the header and the whole payload section received. -/
theorem readsGivenOnly_iff (crc32 : List UInt8 → UInt32) (malloc : Bool) (data : Memory) (len : ℕ)
    (pkt : Pkt) : ReadsGivenOnly crc32 malloc data len pkt ↔ SettledByGiven crc32 data len pkt := by
  refine ⟨fun h => ?_, readsGivenOnly_of_settled⟩
  by_contra hcon
  obtain ⟨h8, hcon⟩ := not_or.mp hcon
  obtain ⟨htype, hcon⟩ := not_or.mp hcon
  obtain ⟨hlen, hcon⟩ := not_or.mp hcon
  obtain ⟨hfits, hrest⟩ := not_or.mp hcon
  have hread : ReadsHeader data len pkt := ⟨Nat.not_lt.mp h8, htype, Nat.not_lt.mp hlen⟩
  have hok : (pktDecode crc32 malloc (completed crc32 data (storedLength data pkt).toNat) len
      pkt).1 = .pktOk := pktDecode_completed hread
  generalize hn : (storedLength data pkt).toNat = n at *
  have hfits2 : CrcFits crc32 data len (12 + n) (bytesAt data 12 n) := by
    by_cases h12 : 12 ≤ len
    · by_contra hbad
      exact hrest ⟨h12, Or.inr (Or.inr hbad)⟩
    · exact fun i hi => memcpy_of_lt (by omega)
  have hgood : ∀ i < len, data i = completed crc32 data n i :=
    fun i hi => completed_agree (not_not.mp hfits) hfits2 hi
  -- the last byte of the CRC in question has not been received
  obtain ⟨j, hj, hlast⟩ : ∃ j, len ≤ j ∧ (j = 11 ∨ 0 < n ∧ j = 15 + n) := by
    by_cases h12 : 12 ≤ len
    · have hzero : n ≠ 0 := fun hzero => hrest ⟨h12, Or.inl hzero⟩
      have hsize : ¬ 16 + n ≤ len := fun hsize => hrest ⟨h12, Or.inr (Or.inl hsize)⟩
      exact ⟨15 + n, by omega, Or.inr ⟨by omega, rfl⟩⟩
    · exact ⟨11, by omega, Or.inl rfl⟩
  have hbad : (pktDecode crc32 malloc (flipByte (completed crc32 data n) j) len pkt).1 ≠
      .pktOk := by
    refine pktDecode_lastByteChanged hok ?_ (flipByte_self_ne _ j)
      fun i hi => (flipByte_of_ne hi.ne).symm
    rw [← storedLength_agree hgood (by omega) pkt, hn]
    exact hlast
  have hstatus := (h _ hgood).1
  have hstatus' := (h (flipByte (completed crc32 data n) j) fun i hi =>
    (hgood i hi).trans (flipByte_of_ne (by omega)).symm).1
  exact hbad (hstatus'.symm.trans (hstatus.trans hok))

/-- **The payload of a datagram of twelve bytes** is found behind it: with the payload of
`threeBytes` there it is accepted, and with another last byte it is not. -/
theorem not_readsGivenOnly :
    ¬ ∀ (malloc : Bool) (data : Memory) (len : ℕ) (pkt : Pkt),
      ReadsGivenOnly zlibCrc32 malloc data len pkt := by
  intro h
  have hstart : StartsWith threeBytesDatagram (encoding zlibCrc32 threeBytes [10, 20, 30]) :=
    startsWith_memcpy _ _
  have hok : (pktDecode zlibCrc32 true threeBytesDatagram 12 blankPkt).1 = .pktOk := by
    rw [pktDecode_of_startsWith zlibCrc32 content_threeBytes rfl (by decide) hstart (by decide)]
  have hcrc : (pktDecode zlibCrc32 true (flipByte threeBytesDatagram 18) 12 blankPkt).1 =
      .eCrc := by
    decide +kernel
  have hagree : ∀ i < 12, threeBytesDatagram i = flipByte threeBytesDatagram 18 i :=
    fun i hi => (flipByte_of_ne (by omega)).symm
  have hsame := (h true threeBytesDatagram 12 blankPkt (flipByte threeBytesDatagram 18) hagree).1
  rw [hok, hcrc] at hsame
  cases hsame

end TrtpNetwork
