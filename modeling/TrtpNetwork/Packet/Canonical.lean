import TrtpNetwork.Packet.RoundTrip

/-!
# Encoding undoes decoding

`pkt_decode` keeps every bit of the datagrams it accepts: the fields of the decoded structure are
the bytes of the header in other arrangements, and the two CRCs, which `pkt_encode` computes anew,
are the ones it has compared.  So an accepted datagram has one representation only.

The header is put together again field by field (`header_decodedHeader`), and `Accepts.encoding_eq`
adds the CRCs and the payload.  Datagrams with the TR bit set or a length field over 512 are outside
of this, and so are bytes that were not received.
-/

namespace TrtpNetwork

variable {crc32 : List UInt8 → UInt32} {data : Memory}

/-! ## The header -/

theorem ofNat_bitFields (b : UInt8) (htr : b.toNat / 32 % 2 = 0) :
    UInt8.ofNat (((b.toNat / 64) <<< 6) + b.toNat % 32) = b := by
  have hb : b.toNat < 256 := b.toNat_lt
  apply UInt8.toNat_inj.mp
  rw [UInt8.toNat_ofNat', Nat.shiftLeft_eq]
  omega

/-- The bytes of a field are the bytes its value is stored as. -/
theorem beBytes_two_bytesAt (m : Memory) (off : ℕ) :
    beBytes 2 (ofBeBytes (bytesAt m off 2)) = bytesAt m off 2 := by
  have h := beBytes_ofBeBytes (bytesAt m off 2)
  rwa [length_bytesAt] at h

theorem leBytes_four_bytesAt (m : Memory) (off : ℕ) :
    leBytes 4 (ofLeBytes (bytesAt m off 4)) = bytesAt m off 4 := by
  have h := leBytes_ofLeBytes (bytesAt m off 4)
  rwa [length_bytesAt] at h

theorem beBytes_crcField (m : Memory) (off : ℕ) :
    beBytes 4 (UInt32.ofNat (ofBeBytes (bytesAt m off 4))).toNat = bytesAt m off 4 := by
  have hlt : ofBeBytes (bytesAt m off 4) < 2 ^ 32 := ofBeBytes_bytesAt_lt m off 4
  have h := beBytes_ofBeBytes (bytesAt m off 4)
  rw [length_bytesAt] at h
  rw [UInt32.toNat_ofNat', Nat.mod_eq_of_lt hlt, h]

/-- **The header of the decoded structure** is the header it was read from, with TR clear and a
length that is not refused. -/
theorem header_decodedHeader (htr : Wire.tr data = 0) (hlen : Wire.length data ≤ 512) (old : Pkt) :
    header (decodedHeader data old) = bytesAt data 0 8 := by
  have hb : (data 0).toNat < 256 := (data 0).toNat_lt
  have htype : (Wire.type data).toBits = (data 0).toNat / 64 := Ptypes.toBits_ofBits (by omega)
  have hbit : (data 0).toNat / 32 % 2 = 0 := by
    have hval := congrArg Fin.val htr
    rwa [Wire.tr, Fin.val_ofNat] at hval
  have hwindow : (Wire.window data).val = (data 0).toNat % 32 := by
    rw [Wire.window, Fin.val_ofNat]
  have hlength := toNat_storedLength hlen old
  have htime : (Wire.timestamp data).toNat = ofLeBytes (bytesAt data 4 4) := by
    have hlt : ofLeBytes (bytesAt data 4 4) < 2 ^ 32 := ofLeBytes_bytesAt_lt data 4 4
    rw [Wire.timestamp, UInt32.toNat_ofNat', Nat.mod_eq_of_lt hlt]
  have hfirst : UInt8.ofNat (((data 0).toNat / 64) <<< 6 + (0 : Fin 2).val <<< 5 +
      (data 0).toNat % 32) = data 0 := ofNat_bitFields (data 0) hbit
  simp only [header, decodedHeader]
  rw [htr, htype, hwindow, hlength, htime, hfirst, Wire.length, beBytes_two_bytesAt,
    leBytes_four_bytesAt, Wire.seqnum]
  rfl

/-! ## The datagram -/

/-- The bytes of a datagram with this header. -/
def Wire.size (data : Memory) : ℕ :=
  if Wire.length data = 0 then 12 else 16 + Wire.length data

/-- A datagram of at least `Wire.size` bytes, with TR clear and a length field of at most 512, that
`pkt_decode` accepts. -/
def Accepts (crc32 : List UInt8 → UInt32) (data : Memory) (len : ℕ) (old q : Pkt) : Prop :=
  pktDecode crc32 true data len old = (.pktOk, q) ∧ Wire.tr data = 0 ∧ Wire.length data ≤ 512 ∧
    Wire.size data ≤ len

/-- The payload an accepted datagram carries. -/
def Wire.payload (data : Memory) : List UInt8 := bytesAt data 12 (Wire.length data)

theorem length_payload (data : Memory) : (Wire.payload data).length = Wire.length data :=
  length_bytesAt ..

/-- The structure `pkt_decode` returns for an accepted datagram. -/
theorem Accepts.eq_decoded {len : ℕ} {old q : Pkt} (h : Accepts crc32 data len old q) :
    q = if Wire.length data = 0 then decodedHeader data old
      else { decodedHeader data old with
        crc2 := Wire.crc2 data (Wire.length data)
        payload := .block (Wire.payload data) } := by
  obtain ⟨hdec, htr, hlen, -⟩ := h
  have hstored := toNat_storedLength hlen old
  have hgt : ¬ storedLength data old > 512 := by
    rw [gt_iff_lt, UInt16.lt_iff_toNat_lt, hstored]
    exact Nat.not_lt.mpr hlen
  obtain ⟨h8, -, -, hcrc1, hcrc2⟩ :=
    (pktDecode_status_eq_pktOk_iff crc32 true data len old).mp (by rw [hdec])
  rw [hstored] at hcrc2
  rw [pktDecode_eq, if_neg (by omega), if_neg (fun hc => hc.1 htr), if_neg hgt,
    if_neg (not_not.mpr hcrc1)] at hdec
  by_cases hzero : Wire.length data = 0
  · have hpos : ¬ storedLength data old > 0 := by
      rw [gt_iff_lt, UInt16.lt_iff_toNat_lt, hstored, hzero]
      exact Nat.not_lt_zero _
    rw [if_neg hpos] at hdec
    rw [if_pos hzero]
    exact (Prod.mk.inj hdec).2.symm
  · have hpos : storedLength data old > 0 := by
      rw [gt_iff_lt, UInt16.lt_iff_toNat_lt, hstored]
      exact Nat.pos_of_ne_zero hzero
    rw [if_pos hpos] at hdec
    simp only [hstored, hcrc2 (Nat.pos_of_ne_zero hzero), ne_eq, not_true, if_false] at hdec
    rw [if_neg hzero, ← (Prod.mk.inj hdec).2]
    have hlen' : (decodedHeader data old).length.toNat ≤ 512 := hstored.trans_le hlen
    rw [pktSetPayload_snd hlen', bytesAt_shift]
    show _ = { decodedHeader data old with
      crc2 := Wire.crc2 data (Wire.length data)
      payload := .block (bytesAt data 12 (Wire.length data)) }
    rw [← hstored]
    rfl

/-- The payload of the decoded structure. -/
theorem Accepts.content {len : ℕ} {old q : Pkt} (h : Accepts crc32 data len old q) :
    q.content = some (Wire.payload data) := by
  have hstored := toNat_storedLength h.2.2.1 old
  rw [h.eq_decoded]
  by_cases hzero : Wire.length data = 0
  · have hnil : Wire.payload data = [] := by
      rw [← List.length_eq_zero_iff, length_payload, hzero]
    rw [if_pos hzero, hnil]
    exact if_pos (hstored.trans hzero)
  · rw [if_neg hzero]
    show Payload.read (.block (Wire.payload data)) (storedLength data old).toNat = _
    rw [hstored, Payload.read, if_neg hzero]
    simp only [length_payload, Nat.le_refl, if_true]
    rw [List.take_of_length_le (length_payload data).le]

/-- The header of the decoded structure, whether or not there was a payload. -/
theorem Accepts.header_eq {len : ℕ} {old q : Pkt} (h : Accepts crc32 data len old q) :
    header q = bytesAt data 0 8 := by
  rw [← header_decodedHeader h.2.1 h.2.2.1 old, h.eq_decoded]
  split
  · rfl
  · rfl

/-- **An accepted datagram is the encoding of its decoded structure.** -/
theorem Accepts.encoding_eq {len : ℕ} {old q : Pkt} (h : Accepts crc32 data len old q) :
    encoding crc32 q (Wire.payload data) = bytesAt data 0 (Wire.size data) := by
  obtain ⟨-, -, -, hcrc1, hcrc2⟩ :=
    (pktDecode_status_eq_pktOk_iff crc32 true data len old).mp (by rw [h.1])
  rw [toNat_storedLength h.2.2.1] at hcrc2
  have hfield1 : beBytes 4 (crc32 (bytesAt data 0 8)).toNat = bytesAt data 8 4 := by
    rw [hcrc1]
    exact beBytes_crcField data 8
  rw [encoding, h.header_eq, hfield1, ← bytesAt_add, Wire.size, payloadSection]
  by_cases hzero : Wire.length data = 0
  · have hnil : Wire.payload data = [] := by
      rw [← List.length_eq_zero_iff, length_payload, hzero]
    rw [if_pos hzero, if_pos hnil, List.append_nil]
  · have hne : Wire.payload data ≠ [] := by
      rw [ne_eq, ← List.length_eq_zero_iff, length_payload]
      exact hzero
    have hfield2 : beBytes 4 (crc32 (Wire.payload data)).toNat =
        bytesAt data (12 + Wire.length data) 4 := by
      rw [Wire.payload, hcrc2 (Nat.pos_of_ne_zero hzero)]
      exact beBytes_crcField data (12 + Wire.length data)
    have hsize : 16 + Wire.length data = 8 + 4 + (Wire.length data + 4) := by omega
    rw [if_neg hzero, if_neg hne, hfield2, hsize, bytesAt_add data 0 (8 + 4),
      bytesAt_add data _ (Wire.length data) 4, Wire.payload]

/-- The same packet, as far as a receiver can tell: the six header fields and the payload bytes. -/
structure SamePacket (q q' : Pkt) : Prop where
  type : q.type = q'.type
  tr : q.tr = q'.tr
  window : q.window = q'.window
  length : q.length = q'.length
  seqnum : q.seqnum = q'.seqnum
  timestamp : q.timestamp = q'.timestamp
  content : q.content = q'.content

theorem SamePacket.header_eq {q q' : Pkt} (h : SamePacket q q') : header q = header q' := by
  rw [header, header, h.type, h.tr, h.window, h.length, h.seqnum, h.timestamp]

/-- **Encoding undoes decoding.**  A datagram that `pkt_decode` accepts, with TR clear, a length
field of at most 512 and all its bytes received, is what `pkt_encode` makes of the decoded
structure, both CRCs included.  So two such datagrams that decode to the same packet are equal. -/
theorem pktEncode_pktDecode (crc32 : List UInt8 → UInt32) (data : Memory) (len : ℕ) (old q : Pkt)
    (h : Accepts crc32 data len old q) :
    (∀ (buf : Memory) (cap : ℕ), ∃ e, pktEncode crc32 q buf cap = some e ∧ e.status = .pktOk ∧
      e.len = Wire.size data ∧ ∀ i < e.len, e.buf i = data i) ∧
    ∀ (data' : Memory) (len' : ℕ) (old' q' : Pkt), Accepts crc32 data' len' old' q' →
      SamePacket q q' →
        Wire.size data' = Wire.size data ∧ ∀ i < Wire.size data, data' i = data i := by
  constructor
  · intro buf cap
    refine ⟨_, pktEncode_eq crc32 h.content buf cap, rfl, ?_, fun i hi => ?_⟩
    · rw [h.encoding_eq, length_bytesAt]
    · have hlen : i < (encoding crc32 q (Wire.payload data)).length := hi
      show memcpy buf 0 (encoding crc32 q (Wire.payload data)) i = data i
      rw [memcpy_of_mem (Nat.zero_le i) hlen]
      simp only [h.encoding_eq, getElem_bytesAt, Nat.sub_zero, Nat.zero_add]
  · intro data' len' old' q' h' hsame
    have hpayload : Wire.payload data' = Wire.payload data :=
      Option.some.inj (h'.content.symm.trans (hsame.content.symm.trans h.content))
    have hbytes : bytesAt data' 0 (Wire.size data') = bytesAt data 0 (Wire.size data) := by
      rw [← h.encoding_eq, ← h'.encoding_eq, encoding, encoding, hsame.header_eq, hpayload]
    have hsize : Wire.size data' = Wire.size data := by
      have hlen := congrArg List.length hbytes
      rwa [length_bytesAt, length_bytesAt] at hlen
    rw [hsize] at hbytes
    exact ⟨hsize, fun i hi => bytesAt_eq_iff.mp hbytes i (Nat.zero_le i) (by omega)⟩

/-- The datagram of `threeBytes` in a buffer of zeros. -/
def threeBytesDatagram : Memory :=
  memcpy (fun _ => 0) 0 (encoding zlibCrc32 threeBytes [10, 20, 30])

/-- It is decoded and encoded again. -/
theorem pktEncode_pktDecode_threeBytes :
    ∃ e q, pktDecode zlibCrc32 true threeBytesDatagram 19 blankPkt = (.pktOk, q) ∧
      pktEncode zlibCrc32 q (fun _ => 0) 512 = some e ∧ e.len = 19 ∧ e.buf 12 = 10 := by
  have hstart : StartsWith threeBytesDatagram (encoding zlibCrc32 threeBytes [10, 20, 30]) :=
    startsWith_memcpy (fun _ => 0) _
  have hdec : pktDecode zlibCrc32 true threeBytesDatagram 19 blankPkt =
      (.pktOk, decodedPkt zlibCrc32 true threeBytes [10, 20, 30] blankPkt) :=
    pktDecode_of_startsWith zlibCrc32 rfl rfl (by decide) hstart (by decide) true blankPkt
  have hlen : Wire.length threeBytesDatagram = 3 := Wire.length_of_startsWith hstart
  have hsize : Wire.size threeBytesDatagram = 19 := by
    rw [Wire.size, hlen]
    rfl
  obtain ⟨hencode, -⟩ := pktEncode_pktDecode zlibCrc32 threeBytesDatagram 19 blankPkt _
    ⟨hdec, Wire.tr_of_startsWith hstart, by rw [hlen]; decide, hsize.le⟩
  obtain ⟨e, he, -, helen, hbuf⟩ := hencode (fun _ => 0) 512
  refine ⟨e, _, hdec, he, helen.trans hsize, ?_⟩
  rw [hbuf 12 (by omega)]
  decide +kernel

end TrtpNetwork
