import TrtpNetwork.Packet.RoundTrip

/-!
# Datagrams changed on the way

Two things happen to a datagram between `pkt_encode` and `pkt_decode`.  A byte may be corrupted,
which the two CRCs are there to notice, and a router may truncate a data packet to its header and
set the TR bit, which the receiver is to recognise: `packet_interface.h` has the header CRC verified
"with the TR field taken as 0".

`pkt_decode` makes no difference between the two.  It takes the CRC over the header as received, so
every change of one byte is rejected (`pktDecode_of_byteChanged`), and so is the bit that a router
sets (`not_recognisesTruncated`).  What is asked of `crc32` for both is that it notices a replaced
byte.
-/

namespace TrtpNetwork

variable {crc32 : List UInt8 → UInt32}

/-! ## One byte of a buffer -/

/-- A read around one of its bytes. -/
theorem bytesAt_eq_append {m : Memory} {off n i : ℕ} (hlo : off ≤ i) (hhi : i < off + n) :
    bytesAt m off n = bytesAt m off (i - off) ++ m i :: bytesAt m (i + 1) (off + n - (i + 1)) := by
  have hsplit : n = i - off + (1 + (off + n - (i + 1))) := by omega
  conv_lhs => rw [hsplit]
  rw [bytesAt_add, bytesAt_add, Nat.add_sub_cancel' hlo]
  rfl

/-- The checksum of a read notices a byte that differs. -/
theorem DetectsByteChange.bytesAt (h : DetectsByteChange crc32) {m m' : Memory} {off n i : ℕ}
    (hlo : off ≤ i) (hhi : i < off + n) (hne : m i ≠ m' i)
    (hsame : ∀ j, off ≤ j → j < off + n → j ≠ i → m j = m' j) :
    crc32 (bytesAt m off n) ≠ crc32 (bytesAt m' off n) := by
  have hpre : TrtpNetwork.bytesAt m off (i - off) = TrtpNetwork.bytesAt m' off (i - off) :=
    bytesAt_congr fun j hj hji => hsame j hj (by omega) (by omega)
  have hpost : TrtpNetwork.bytesAt m (i + 1) (off + n - (i + 1)) =
      TrtpNetwork.bytesAt m' (i + 1) (off + n - (i + 1)) :=
    bytesAt_congr fun j hj hji => hsame j (by omega) (by omega) (by omega)
  rw [bytesAt_eq_append hlo hhi, bytesAt_eq_append hlo hhi, hpre, hpost]
  exact h _ _ _ _ hne

/-- Four bytes in network order are one integer each. -/
theorem ofBeBytes_bytesAt_injective {m m' : Memory} {off : ℕ}
    (h : UInt32.ofNat (ofBeBytes (bytesAt m off 4)) = UInt32.ofNat (ofBeBytes (bytesAt m' off 4))) :
    bytesAt m off 4 = bytesAt m' off 4 := by
  have hlt : ∀ m : Memory, ofBeBytes (bytesAt m off 4) < 2 ^ 32 :=
    fun m => ofBeBytes_bytesAt_lt m off 4
  have hnat := congrArg UInt32.toNat h
  rw [UInt32.toNat_ofNat', UInt32.toNat_ofNat', Nat.mod_eq_of_lt (hlt m),
    Nat.mod_eq_of_lt (hlt m')] at hnat
  have hm := beBytes_ofBeBytes (bytesAt m off 4)
  have hm' := beBytes_ofBeBytes (bytesAt m' off 4)
  rw [length_bytesAt] at hm hm'
  rw [← hm, ← hm', hnat]

/-- A CRC field one byte of which differs. -/
theorem crcField_ne {m m' : Memory} {off i : ℕ} (hlo : off ≤ i) (hhi : i < off + 4)
    (hne : m i ≠ m' i) :
    UInt32.ofNat (ofBeBytes (bytesAt m off 4)) ≠ UInt32.ofNat (ofBeBytes (bytesAt m' off 4)) := by
  intro h
  exact hne (bytesAt_eq_iff.mp (ofBeBytes_bytesAt_injective h) i hlo hhi)

/-! ## Corruption -/

variable {pkt : Pkt} {payload : List UInt8} {sent data : Memory}

/-- **A header with one byte changed is rejected**, whatever lies behind it. -/
theorem pktDecode_of_headerChanged (hcrc : DetectsByteChange crc32)
    (h : StartsWith sent (encoding crc32 pkt payload)) {i : ℕ} (hi : i < 8)
    (hne : data i ≠ sent i) (hsame : ∀ j < 12, j ≠ i → data j = sent j) (malloc : Bool) (len : ℕ)
    (old : Pkt) : (pktDecode crc32 malloc data len old).1 ≠ .pktOk := by
  intro hok
  obtain ⟨-, -, -, hheader, -⟩ := (pktDecode_status_eq_pktOk_iff ..).mp hok
  have hcrc1 : Wire.crc1 data = Wire.crc1 sent := by
    rw [Wire.crc1, Wire.crc1, bytesAt_congr fun j hj hj' => hsame j (by omega) (by omega)]
  rw [hcrc1, Wire.crc1_of_startsWith h, ← bytesAt_header h] at hheader
  exact hcrc.bytesAt (Nat.zero_le i) (by omega) hne
    (fun j _ hj hji => hsame j (by omega) hji) hheader

/-- The CRC field of the header changed. -/
theorem pktDecode_of_crc1Changed (h : StartsWith sent (encoding crc32 pkt payload)) {i : ℕ}
    (hlo : 8 ≤ i) (hhi : i < 12) (hne : data i ≠ sent i)
    (hsame : ∀ j < 12, j ≠ i → data j = sent j) (malloc : Bool) (len : ℕ) (old : Pkt) :
    (pktDecode crc32 malloc data len old).1 ≠ .pktOk := by
  intro hok
  obtain ⟨-, -, -, hheader, -⟩ := (pktDecode_status_eq_pktOk_iff ..).mp hok
  have hbytes : bytesAt data 0 8 = bytesAt sent 0 8 :=
    bytesAt_congr fun j _ hj => hsame j (by omega) (by omega)
  rw [hbytes, bytesAt_header h, ← Wire.crc1_of_startsWith h] at hheader
  exact crcField_ne hlo hhi hne hheader.symm

/-- The payload or its CRC changed, under a header as it was sent. -/
theorem pktDecode_of_payloadChanged (hcrc : DetectsByteChange crc32)
    (hlen : payload.length = pkt.length.toNat) (h512 : pkt.length.toNat ≤ 512)
    (h : StartsWith sent (encoding crc32 pkt payload)) {i : ℕ} (hlo : 12 ≤ i)
    (hhi : i < (encoding crc32 pkt payload).length) (hne : data i ≠ sent i)
    (hsame : ∀ j < (encoding crc32 pkt payload).length, j ≠ i → data j = sent j) (malloc : Bool)
    (len : ℕ) (old : Pkt) : (pktDecode crc32 malloc data len old).1 ≠ .pktOk := by
  intro hok
  obtain ⟨-, -, -, -, hpayload⟩ := (pktDecode_status_eq_pktOk_iff ..).mp hok
  rw [length_encoding] at hhi hsame
  have hpos : payload ≠ [] := by
    rintro rfl
    rw [if_pos rfl] at hhi
    omega
  rw [if_neg hpos] at hhi hsame
  have hstored : (storedLength data old).toNat = payload.length := by
    have hwire : Wire.length data = pkt.length.toNat := by
      rw [Wire.length, bytesAt_congr fun j hj hj' => hsame j (by omega) (by omega)]
      exact Wire.length_of_startsWith h
    rw [storedLength, hwire, if_pos h512, UInt16.ofNat_toNat, hlen]
  rw [hstored] at hpayload
  have hcrc2 := hpayload (List.length_pos_iff.mpr hpos)
  by_cases hpart : i < 12 + payload.length
  · -- the payload itself: its CRC is found as it was sent
    have hfield : Wire.crc2 data payload.length = Wire.crc2 sent payload.length := by
      rw [Wire.crc2, Wire.crc2, bytesAt_congr fun j hj hj' => hsame j (by omega) (by omega)]
    rw [hfield, Wire.crc2_of_startsWith h hpos] at hcrc2
    refine hcrc.bytesAt hlo hpart hne (fun j _ hj hji => hsame j (by omega) hji) ?_
    rw [hcrc2, bytesAt_payload h]
  · have hbytes : bytesAt data 12 payload.length = bytesAt sent 12 payload.length :=
      bytesAt_congr fun j hj hj' => hsame j (by omega) (by omega)
    rw [hbytes, bytesAt_payload h, ← Wire.crc2_of_startsWith h hpos] at hcrc2
    exact crcField_ne (by omega) (by omega) hne hcrc2.symm

/-- **Every corruption of one byte is rejected.**  A packet with TR clear and a length of at most
512 is encoded; whichever byte of the encoding is replaced by another one, whatever follows in the
buffer and whatever structure the caller passed in, `pkt_decode` does not return `PKT_OK`.  That
includes the byte with nothing but its TR bit set. -/
theorem pktDecode_of_byteChanged (crc32 : List UInt8 → UInt32) (hcrc : DetectsByteChange crc32)
    (pkt : Pkt) (payload : List UInt8) (hlen : pkt.length.toNat ≤ 512)
    (hcontent : pkt.content = some payload) (buf : Memory) (cap : ℕ) (e : Encoded)
    (he : pktEncode crc32 pkt buf cap = some e) (i : ℕ) (hi : i < e.len) (data : Memory)
    (hne : data i ≠ e.buf i) (hsame : ∀ j < e.len, j ≠ i → data j = e.buf j) (malloc : Bool)
    (len : ℕ) (old : Pkt) : (pktDecode crc32 malloc data len old).1 ≠ .pktOk := by
  obtain rfl := Option.some.inj ((pktEncode_eq crc32 hcontent buf cap).symm.trans he)
  have h12 := twelve_le_length_encoding crc32 pkt payload
  have hstart := startsWith_memcpy buf (encoding crc32 pkt payload)
  have hheader : ∀ j < 12, j ≠ i → data j = memcpy buf 0 (encoding crc32 pkt payload) j :=
    fun j hj hji => hsame j (hj.trans_le h12) hji
  rcases Nat.lt_or_ge i 8 with h8 | h8
  · exact pktDecode_of_headerChanged hcrc hstart h8 hne hheader malloc len old
  rcases Nat.lt_or_ge i 12 with h12 | h12
  · exact pktDecode_of_crc1Changed hstart h8 h12 hne hheader malloc len old
  · exact pktDecode_of_payloadChanged hcrc (Payload.length_of_read hcontent) hlen hstart h12 hi hne
      hsame malloc len old

/-- The second byte of a payload of three, cleared. -/
theorem pktDecode_of_byteChanged_threeBytes :
    ∃ e, pktEncode zlibCrc32 threeBytes (fun _ => 0) 512 = some e ∧ e.buf 13 = 20 ∧
      (pktDecode zlibCrc32 true (Function.update e.buf 13 0) 512 threeBytes).1 ≠ .pktOk := by
  have he := pktEncode_eq zlibCrc32 content_threeBytes (fun _ => 0) 512
  have h13 : memcpy (fun _ => 0) 0 (encoding zlibCrc32 threeBytes [10, 20, 30]) 13 = 20 := by
    decide +kernel
  refine ⟨_, he, h13, ?_⟩
  refine pktDecode_of_byteChanged zlibCrc32 zlibCrc32_detectsByteChange threeBytes [10, 20, 30]
    (by decide) rfl (fun _ => 0) 512 _ he 13 (by decide) _ ?_ (fun j _ hj => ?_) true 512 threeBytes
  · rw [Function.update_self]
    exact fun h => absurd (h.trans h13) (by decide)
  · rw [Function.update_of_ne hj]

/-! ## Truncation -/

/-- What a router leaves of a datagram it truncates: the twelve bytes of the header, with the TR bit
set. -/
def Truncated (sent data : Memory) : Prop :=
  data 0 = sent 0 ||| 0x20 ∧ ∀ i, 0 < i → i < 12 → data i = sent i

/-- The twelve bytes are recognised as the truncated packet: accepted with the fields of the packet
and TR, without a payload (the pointer is `NULL`, or what it was before the call), and whatever lies
behind them. -/
def RecognisesTruncated (crc32 : List UInt8 → UInt32) (malloc : Bool) (pkt : Pkt) (data : Memory)
    (old : Pkt) : Prop :=
  ∃ q, (∀ data', (∀ i < 12, data' i = data i) →
      pktDecode crc32 malloc data' 12 old = (.pktOk, q)) ∧
    q.type = .data ∧ q.tr = 1 ∧ q.window = pkt.window ∧ q.seqnum = pkt.seqnum ∧
    q.length = pkt.length ∧ q.timestamp = pkt.timestamp ∧
    (q.payload = .null ∨ q.payload = old.payload)

/-- Setting the TR bit of a packet that has it clear changes the first byte. -/
theorem or_tr_ne (h : StartsWith sent (encoding crc32 pkt payload)) (htr : pkt.tr = 0) :
    sent 0 ||| 0x20 ≠ sent 0 := by
  have key : ∀ n : Fin 256, n.val ||| 32 = n.val → n.val / 32 % 2 = 1 := by decide +kernel
  intro heq
  have hnat := congrArg UInt8.toNat heq
  rw [UInt8.toNat_or] at hnat
  have hbit := key ⟨(sent 0).toNat, (sent 0).toNat_lt⟩ hnat
  have htr0 := Wire.tr_of_startsWith h
  rw [htr] at htr0
  have hzero := congrArg Fin.val htr0
  rw [Wire.tr, Fin.val_ofNat] at hzero
  have hbit' : (sent 0).toNat / 32 % 2 = 1 := hbit
  rw [hbit'] at hzero
  cases hzero

/-- **A truncated packet is never recognised.**  For every packet with TR clear, data packets with a
payload among them, the header with the TR bit set does not pass the CRC test, which is made over
the header as it was received. -/
theorem not_recognisesTruncated (crc32 : List UInt8 → UInt32) (hcrc : DetectsByteChange crc32)
    (pkt : Pkt) (payload : List UInt8) (htr : pkt.tr = 0) (hcontent : pkt.content = some payload)
    (buf : Memory) (cap : ℕ) (e : Encoded) (he : pktEncode crc32 pkt buf cap = some e)
    (data : Memory) (htrunc : Truncated e.buf data) (malloc : Bool) (old : Pkt) :
    ¬ RecognisesTruncated crc32 malloc pkt data old := by
  obtain rfl := Option.some.inj ((pktEncode_eq crc32 hcontent buf cap).symm.trans he)
  obtain ⟨hfirst, hrest⟩ := htrunc
  have hstart := startsWith_memcpy buf (encoding crc32 pkt payload)
  rintro ⟨q, hq, -⟩
  refine pktDecode_of_headerChanged hcrc hstart (i := 0) (by decide) ?_
    (fun j hj hj0 => hrest j (by omega) hj) malloc 12 old ?_
  · rw [hfirst]
    exact or_tr_ne hstart htr
  · rw [hq data fun _ _ => rfl]

/-- The twelve bytes a router leaves of a buffer. -/
def truncate (sent : Memory) : Memory := Function.update sent 0 (sent 0 ||| 0x20)

theorem truncated_truncate (sent : Memory) : Truncated sent (truncate sent) :=
  ⟨Function.update_self .., fun _ hi _ => Function.update_of_ne (by omega) ..⟩

/-- A packet with a payload of three bytes, truncated. -/
theorem not_recognisesTruncated_threeBytes :
    ∃ e, pktEncode zlibCrc32 threeBytes (fun _ => 0) 512 = some e ∧
      Truncated e.buf (truncate e.buf) ∧
      ¬ RecognisesTruncated zlibCrc32 true threeBytes (truncate e.buf) threeBytes := by
  have he := pktEncode_eq zlibCrc32 content_threeBytes (fun _ => 0) 512
  exact ⟨_, he, truncated_truncate _, not_recognisesTruncated zlibCrc32 zlibCrc32_detectsByteChange
    threeBytes [10, 20, 30] rfl rfl (fun _ => 0) 512 _ he _ (truncated_truncate _) true threeBytes⟩

/-- **The truncated packet of the documentation is turned away**: the header CRC of `threeBytes`
does not match once the TR bit is set. -/
theorem not_truncatedRecognised :
    ¬ ∀ (pkt : Pkt) (payload : List UInt8), pkt.type = .data → pkt.tr = 0 →
      0 < pkt.length.toNat → pkt.length.toNat ≤ 512 → pkt.content = some payload →
      ∀ (buf : Memory) (cap : ℕ) (e : Encoded), pktEncode zlibCrc32 pkt buf cap = some e →
      ∀ data : Memory, Truncated e.buf data → ∀ (malloc : Bool) (old : Pkt),
        RecognisesTruncated zlibCrc32 malloc pkt data old := by
  intro h
  have he := pktEncode_eq zlibCrc32 content_threeBytes (fun _ => 0) 512
  obtain ⟨q, hq, -⟩ := h threeBytes [10, 20, 30] rfl rfl (by decide) (by decide) content_threeBytes
    (fun _ => 0) 512 _ he _ (truncated_truncate _) true threeBytes
  have hok : (pktDecode zlibCrc32 true (truncate (memcpy (fun _ => 0) 0
      (encoding zlibCrc32 threeBytes [10, 20, 30]))) 12 threeBytes).1 = .eCrc := by
    decide +kernel
  rw [show pktDecode zlibCrc32 true (truncate (memcpy (fun _ => 0) 0
      (encoding zlibCrc32 threeBytes [10, 20, 30]))) 12 threeBytes = (.pktOk, q) from
    hq _ fun _ _ => rfl] at hok
  cases hok

end TrtpNetwork
